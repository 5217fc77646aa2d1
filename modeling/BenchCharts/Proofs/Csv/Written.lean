import BenchCharts.Proofs.Csv.Contents
import BenchCharts.Proofs.Text.Utf8
import Mathlib.Data.List.Forall2

namespace BenchCharts.Csv
open Text Text.Utf8

def special : List Char := ['"', ',', '\r', '\n']

def Spaces (text : String) : Prop := ∀ c ∈ text.toList, c = ' ' ∨ c = '\t'

instance (text : String) : Decidable (Spaces text) := List.decidableBAll (fun c => c = ' ' ∨ c = '\t') text.toList

def Bare (text : String) : Prop := ∀ c ∈ text.toList, c ∉ special

instance (text : String) : Decidable (Bare text) := List.decidableBAll (fun c => c ∉ special) text.toList

-- Any text can be quoted. Left bare it must not hold what the reader would stop at.
inductive WritesField (text : String) : List UInt8 → Prop where
  | quoted : WritesField text (quote :: (doubled (encode text) ++ [quote]))
  | bare (before after : String) (front : Spaces before) (back : Spaces after) (plain : Bare text) :
      WritesField text (encode (before ++ text ++ after))

inductive WritesRow : List String → List UInt8 → Prop where
  | last {text : String} {bytes : List UInt8} (field : WritesField text bytes) : WritesRow [text] bytes
  | more {text : String} {texts : List String} {bytes rest : List UInt8} (field : WritesField text bytes)
      (others : WritesRow texts rest) : WritesRow (text :: texts) (bytes ++ comma :: rest)

inductive LineEnd : List UInt8 → Prop where
  | lf : LineEnd [lineFeed]
  | crlf : LineEnd [carriageReturn, lineFeed]
  | cr : LineEnd [carriageReturn]

-- Empty lines may stand anywhere, so a row must not be written as one: an empty text that is alone in
-- its row needs quotes or spaces.
inductive WritesRows : List (List String) → List UInt8 → Prop where
  | done : WritesRows [] []
  | emptyLine {rows : List (List String)} {line rest : List UInt8} (ends : LineEnd line)
      (others : WritesRows rows rest) : WritesRows rows (line ++ rest)
  | row {row : List String} {rows : List (List String)} {bytes line rest : List UInt8} (fields : WritesRow row bytes)
      (visible : bytes ≠ []) (ends : LineEnd line) (others : WritesRows rows rest) :
      WritesRows (row :: rows) (bytes ++ line ++ rest)
  | last {row : List String} {bytes : List UInt8} (fields : WritesRow row bytes) (visible : bytes ≠ []) :
      WritesRows [row] bytes

def Padded (text : String) (content : List UInt8) : Prop :=
  ∃ before after, Spaces before ∧ Spaces after ∧ content = encode (before ++ text ++ after)

variable {text : String} {row : List String} {rows : List (List String)} {bytes line : List UInt8} {mode : Mode}

theorem spaces_empty : Spaces "" := nofun

theorem padded_self (text : String) : Padded text (encode text) := ⟨"", "", spaces_empty, spaces_empty, by simp⟩

theorem special_low : ∀ c ∈ special, c.toNat < 0x80 := by simp [special]

-- Bytes below 0x80 are characters of the text, so a text without special characters has no special bytes.
theorem isPlain_encode (plain : Bare text) : ∀ b ∈ encode text, isPlain b = true := by
  intro b member
  have absent : ∀ c ∈ special, c.toNat ≠ b.toNat := by
    intro c listed same
    obtain ⟨other, inside, number⟩ := mem_encode member (same ▸ special_low c listed)
    have equal : other = c := Char.toNat_inj.mp (number.trans same.symm)
    exact plain other inside (equal ▸ listed)
  rw [plain_iff]
  refine ⟨?_, ?_, ?_⟩
  · rintro rfl
    exact absent '"' (by decide) rfl
  · rintro rfl
    exact absent ',' (by decide) rfl
  · rw [← Bool.not_eq_true, endsRecord, Bool.or_eq_true, beq_iff_eq, beq_iff_eq]
    rintro (rfl | rfl)
    · exact absent '\n' (by decide) rfl
    · exact absent '\r' (by decide) rfl

theorem WritesField.read (written : WritesField text bytes) (ready : mode = .between ∨ mode = .opening) :
    ∃ after content, Padded text content ∧ after ≠ .quoted ∧ (after = .between → mode = .between ∧ bytes = []) ∧
      ∀ fields rest, (Reader.standing mode fields []).contents (bytes ++ rest) =
        (Reader.standing after fields content.reverse).contents rest := by
  cases written with
  | quoted =>
    refine ⟨.closing, encode text, padded_self text, by decide, nofun, ?_⟩
    intro fields rest
    rw [List.cons_append, List.append_assoc, Reader.contents_quote ready, Reader.contents_doubled,
      List.singleton_append, Reader.contents_close, List.append_nil]
  | bare before after front back plain =>
    have all : ∀ b ∈ encode (before ++ text ++ after), isPlain b = true := by
      apply isPlain_encode
      intro c member
      rw [String.toList_append, String.toList_append, List.mem_append, List.mem_append] at member
      rcases member with (early | inside) | late
      · rcases front c early with rfl | rfl <;> decide
      · exact plain c inside
      · rcases back c late with rfl | rfl <;> decide
    have outside : mode ≠ .quoted := by rcases ready with rfl | rfl <;> decide
    refine ⟨if encode (before ++ text ++ after) = [] then mode else .bare, _,
      ⟨before, after, front, back, rfl⟩, ?_, ?_, ?_⟩
    · split
      · exact outside
      · decide
    · intro between
      split at between
      · rename_i empty
        exact ⟨between, empty⟩
      · cases between
    · intro fields rest
      rw [Reader.contents_run outside all, List.append_nil]

-- At the end of a row its last field is still open, and what follows decides what becomes of it.
theorem WritesRow.read (written : WritesRow row bytes) (ready : mode = .between ∨ mode = .opening)
    (visible : mode = .between → bytes ≠ []) (fields : List (List UInt8)) :
    ∃ after done field contents, List.Forall₂ Padded row contents ∧ after ≠ .quoted ∧ after ≠ .between ∧
      (field.reverse :: done).reverse = fields.reverse ++ contents ∧
      ∀ rest, (Reader.standing mode fields []).contents (bytes ++ rest) =
        (Reader.standing after done field).contents rest := by
  induction written generalizing mode fields with
  | last field =>
    obtain ⟨after, content, padded, outside, empty, read⟩ := field.read ready
    refine ⟨after, fields, content.reverse, [content], .cons padded .nil, outside, ?_, by simp, read fields⟩
    intro between
    obtain ⟨start, nothing⟩ := empty between
    exact visible start nothing
  | more field others ih =>
    obtain ⟨after, content, padded, outside, _, read⟩ := field.read ready
    obtain ⟨last, done, unclosed, contents, rest, closed, begun, same, reads⟩ :=
      @ih .opening (.inr rfl) nofun (content :: fields)
    refine ⟨last, done, unclosed, content :: contents, .cons padded rest, closed, begun, by simpa using same, ?_⟩
    intro behind
    rw [List.append_assoc, List.cons_append, read, Reader.contents_comma outside, List.reverse_reverse, reads]

theorem LineEnd.starts (ends : LineEnd line) : ∃ b rest, line = b :: rest ∧ endsRecord b = true ∧
    ∀ c ∈ rest, endsRecord c = true := by
  cases ends with
  | lf => exact ⟨lineFeed, [], rfl, rfl, nofun⟩
  | crlf => exact ⟨carriageReturn, [lineFeed], rfl, rfl, List.forall_mem_singleton.mpr rfl⟩
  | cr => exact ⟨carriageReturn, [], rfl, rfl, nofun⟩

theorem read_between (ends : ∀ b ∈ line, endsRecord b = true) (rest : List UInt8) :
    (Reader.standing .between [] []).contents (line ++ rest) = (Reader.standing .between [] []).contents rest := by
  induction line with
  | nil => rfl
  | cons b line ih =>
    obtain ⟨first, others⟩ := List.forall_mem_cons.mp ends
    rw [List.cons_append, Reader.contents_blank first, ih others]

theorem WritesRows.read (written : WritesRows rows bytes) :
    List.Forall₂ (List.Forall₂ Padded) rows ((Reader.standing .between [] []).contents bytes) := by
  induction written with
  | done => exact .nil
  | emptyLine ends _ ih =>
    obtain ⟨b, rest, rfl, first, others⟩ := ends.starts
    rw [read_between (List.forall_mem_cons.mpr ⟨first, others⟩)]
    exact ih
  | row fields visible ends _ ih =>
    obtain ⟨after, done, field, contents, padded, closed, begun, same, read⟩ :=
      fields.read (.inl rfl) (fun _ => visible) []
    obtain ⟨b, rest, rfl, first, others⟩ := ends.starts
    rw [List.append_assoc, read, List.cons_append, Reader.contents_end closed begun first, same, read_between others]
    exact .cons padded ih
  | last fields visible =>
    obtain ⟨after, done, field, contents, padded, _, begun, same, read⟩ :=
      fields.read (.inl rfl) (fun _ => visible) []
    have whole := read []
    rw [List.append_nil, Reader.contents_finish begun, same] at whole
    rw [whole]
    exact .cons padded .nil

def mark : List UInt8 := [0xEF, 0xBB, 0xBF]

theorem records_marked (bytes : List UInt8) :
    (records (mark ++ bytes)).map (·.fields) = (Reader.standing .between [] []).contents bytes :=
  (Reader.contents_placeless (.initial .start ⟨3, 1⟩) bytes).symm

theorem records_unmarked (unmarked : ¬mark <+: bytes) :
    (records bytes).map (·.fields) = (Reader.standing .between [] []).contents bytes := by
  unfold records
  split
  · exact absurd (List.prefix_append mark _) unmarked
  · exact (Reader.contents_placeless (.initial .start .start) bytes).symm

theorem mark_char {c : Char} {rest : List UInt8} (starts : mark <+: String.utf8EncodeChar c ++ rest) : c = '\uFEFF' := by
  obtain ⟨more, same⟩ := starts
  apply Char.toNat_inj.mp
  unfold String.utf8EncodeChar at same
  change c.val.toNat = 0xFEFF
  generalize c.val.toNat = v at same ⊢
  dsimp only at same
  split at same
  · simp [mark, ← UInt8.toNat_inj] at same
    omega
  split at same
  · simp [mark, ← UInt8.toNat_inj] at same
    omega
  split at same
  · simp [mark, ← UInt8.toNat_inj] at same
    omega
  · simp [mark, ← UInt8.toNat_inj] at same
    omega

theorem mark_text {rest : List UInt8} (filled : encode text ≠ []) (starts : mark <+: encode text ++ rest) :
    text.toList.head? = some '\uFEFF' := by
  unfold encode at filled starts
  cases chars : text.toList with
  | nil => simp [chars] at filled
  | cons c cs =>
    rw [chars, List.flatMap_cons, List.append_assoc] at starts
    rw [mark_char starts]
    rfl

theorem spaces_head (spaces : Spaces text) : text.toList.head? ≠ some '\uFEFF' := by
  intro head
  rcases spaces _ (List.mem_of_head? head) with same | same <;> exact absurd same (by decide)

theorem WritesField.marked {rest : List UInt8} (written : WritesField text bytes) (filled : bytes ≠ [])
    (starts : mark <+: bytes ++ rest) : text.toList.head? = some '\uFEFF' := by
  cases written with
  | quoted =>
    obtain ⟨more, same⟩ := starts
    cases same
  | bare before after front back plain =>
    have head := mark_text filled starts
    rw [String.toList_append, String.toList_append, List.head?_append, List.head?_append, Option.or_eq_some_iff,
      Option.or_eq_some_iff] at head
    rcases head with (early | ⟨_, inside⟩) | ⟨_, late⟩
    · exact absurd early (spaces_head front)
    · exact inside
    · exact absurd late (spaces_head back)

theorem WritesRow.marked {rest : List UInt8} (written : WritesRow row bytes) (filled : bytes ≠ [])
    (starts : mark <+: bytes ++ rest) : ∃ text ∈ row.head?, text.toList.head? = some '\uFEFF' := by
  cases written with
  | last field => exact ⟨_, rfl, field.marked filled starts⟩
  | @more _ _ first behind field others =>
    rw [List.append_assoc] at starts
    cases first with
    | nil =>
      obtain ⟨more, same⟩ := starts
      cases same
    | cons b first => exact ⟨_, rfl, field.marked nofun starts⟩

-- Only a first text that starts with the character of the mark looks like a mark. The other bytes with
-- which rows can start are those of line ends, quotes, spaces and commas.
theorem WritesRows.marked (written : WritesRows rows bytes) (starts : mark <+: bytes) :
    ∃ row ∈ rows.head?, ∃ text ∈ row.head?, text.toList.head? = some '\uFEFF' := by
  cases written with
  | done =>
    obtain ⟨more, same⟩ := starts
    cases same
  | emptyLine ends others =>
    obtain ⟨more, same⟩ := starts
    cases ends <;> cases same
  | row fields visible ends others =>
    rw [List.append_assoc] at starts
    exact ⟨_, rfl, fields.marked visible starts⟩
  | last fields visible =>
    rw [← List.append_nil bytes] at starts
    exact ⟨_, rfl, fields.marked visible starts⟩

end BenchCharts.Csv
