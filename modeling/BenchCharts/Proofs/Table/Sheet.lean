import BenchCharts.Proofs.Outcome
import BenchCharts.Proofs.Text.Blank
import BenchCharts.Proofs.Text.Utf8
import BenchCharts.Table.Load

namespace BenchCharts
open Csv Text Text.Utf8

structure Sheet where
  header : List String
  rows : List (List String)
  named : ∃ name ∈ header, name ≠ ""
  rectangular : ∀ row ∈ rows, row.length = header.length
  trimmed : ∀ row ∈ header :: rows, ∀ text ∈ row, Trimmed text

namespace Sheet

def table (s : Sheet) : Table := .ofRows s.header s.rows

def cells (s : Sheet) (place : Nat) : List String := s.rows.map fun row => row.getD place ""

def cell? (field : List UInt8) : Option String := (text? field).map trim

-- The records of the bytes are the header and the rows, in their order.
def HeldBy (s : Sheet) (bytes : List UInt8) : Prop :=
  (records bytes).map (fun record => record.fields.map cell?) = (s.header :: s.rows).map (·.map some)

variable {s : Sheet} {field bytes : List UInt8} {fields : List (List UInt8)} {text : String} {texts : List String}

theorem cells_rows {place : Nat} (inside : place < s.header.length) :
    s.rows.map (·[place]?) = (s.cells place).map some := by
  rw [cells, List.map_map]
  apply List.map_congr_left
  intro row member
  have within : place < row.length := s.rectangular row member ▸ inside
  simp [List.getElem?_eq_getElem within]

@[simp] theorem table_rows (s : Sheet) : s.table.rows = s.rows.length := rfl

@[simp] theorem table_names (s : Sheet) : s.table.names = s.header := by
  simp [Table.names, table, Table.ofRows, Function.comp_def]

theorem table_column (s : Sheet) (place : Nat) :
    s.table.columns[place]? = (s.header[place]?).map fun name => ⟨name, .infer (s.cells place)⟩ := by
  simp [table, Table.ofRows, cells, Function.comp_def]

theorem HeldBy.unique {other : Sheet} (one : s.HeldBy bytes) (two : other.HeldBy bytes) : s = other := by
  have same : (s.header :: s.rows).map (·.map some) = (other.header :: other.rows).map (·.map some) :=
    one.symm.trans two
  have injective : Function.Injective (List.map (some : String → Option String)) :=
    List.map_injective_iff.mpr fun _ _ => Option.some.inj
  obtain ⟨header, rows⟩ := List.cons.inj (List.map_injective_iff.mpr injective same)
  obtain ⟨h, r, _, _, _⟩ := s
  cases header
  cases rows
  rfl

theorem cell_exact : cell? field = some text ↔ ∃ whole, field = encode whole ∧ trim whole = text := by
  simp [cell?, Option.map_eq_some_iff, text_exact]

theorem cells_trimmed (same : fields.map cell? = texts.map some) : ∀ text ∈ texts, Trimmed text := by
  intro text member
  have listed : some text ∈ fields.map cell? := same ▸ List.mem_map_of_mem member
  obtain ⟨field, _, present⟩ := List.mem_map.mp listed
  obtain ⟨whole, _, rfl⟩ := cell_exact.mp present
  exact trimmed_trim whole

end Sheet

namespace Table

variable {field : List UInt8} {fields : List (List UInt8)} {texts : List String} {record : Record}

def lowBlanks : List Nat := [9, 10, 12, 13, 32]

theorem lowBlanks_low : ∀ n ∈ lowBlanks, n < 0x80 := by decide

theorem isBlank_low {c : Char} (low : c.toNat ∈ lowBlanks) : isBlank c = true := by
  unfold isBlank inRanges
  generalize c.toNat = n at low ⊢
  revert n
  decide

theorem isByteBlank_iff {b : UInt8} : isByteBlank b = true ↔ b.toNat ∈ lowBlanks := by
  simp [isByteBlank, lowBlanks, ← UInt8.toNat_inj]
  grind

theorem isByteBlank_char {b : UInt8} {c : Char} (member : b ∈ String.utf8EncodeChar c) :
    isByteBlank b = decide (c.toNat ∈ lowBlanks) := by
  rw [Bool.eq_iff_iff, decide_eq_true_iff, isByteBlank_iff]
  constructor
  · intro blank
    rwa [low_byte member (lowBlanks_low _ blank)]
  · intro blank
    rwa [low_char member (lowBlanks_low _ blank)]

theorem blanks_of_bytes {bytes : List UInt8} (blank : ∀ b ∈ bytes, isByteBlank b = true) :
    ∃ pad, encode pad = bytes ∧ Blanks pad := by
  obtain ⟨pad, same, low⟩ := encode_low fun b member => lowBlanks_low _ (isByteBlank_iff.mp (blank b member))
  refine ⟨pad, same, ?_⟩
  intro c member
  obtain ⟨b, inside, number⟩ := low c member
  exact isBlank_low (number ▸ isByteBlank_iff.mp (blank b inside))

-- Blank bytes are blanks of the text, so taking them off first changes nothing.
theorem cell_trimmed (field : List UInt8) : Sheet.cell? (trimBoth isByteBlank field) = Sheet.cell? field := by
  ext text
  rw [Sheet.cell_exact, Sheet.cell_exact]
  constructor
  · rintro ⟨whole, inner, rfl⟩
    obtain ⟨before, after, split, front, back⟩ := trimBoth_split isByteBlank field
    obtain ⟨early, rfl, blank⟩ := blanks_of_bytes front
    obtain ⟨late, rfl, blanks⟩ := blanks_of_bytes back
    refine ⟨early ++ whole ++ late, ?_, trim_around whole blank blanks⟩
    rw [encode_append, encode_append, ← inner, ← split]
  · rintro ⟨whole, rfl, rfl⟩
    obtain ⟨before, after, split, front, back⟩ :=
      trimBoth_split (fun c : Char => decide (c.toNat ∈ lowBlanks)) whole.toList
    refine ⟨.ofList (trimBoth (fun c => decide (c.toNat ∈ lowBlanks)) whole.toList), ?_, ?_⟩
    · rw [encode, trimBoth_flatMap (fun _ => String.utf8EncodeChar_ne_nil) fun _ _ => isByteBlank_char, encode,
        String.toList_ofList]
    · rw [trim, trim, String.toList_ofList]
      nth_rewrite 2 [split]
      rw [trimBoth_around]
      · exact fun c member => isBlank_low (by simpa using front c member)
      · exact fun c member => isBlank_low (by simpa using back c member)

theorem decodeFields_ok (index : Nat) :
    decodeFields index fields = .ok texts ↔ fields.map Sheet.cell? = texts.map some := by
  induction fields generalizing index texts with
  | nil => cases texts <;> simp [decodeFields]
  | cons field fields ih =>
    have present : Sheet.cell? field = (decode field).toOption.map trim := rfl
    unfold decodeFields
    cases decoded : decode field with
    | error readable => cases texts <;> simp [present, decoded, Except.toOption]
    | ok text =>
      rw [map_ok, List.map_cons, present, decoded]
      cases texts with
      | nil => simp
      | cons first texts => simp [ih, Except.toOption, and_comm]

theorem header_ok : header record = .ok texts ↔
    record.fields.map Sheet.cell? = texts.map some ∧ ∃ name ∈ texts, name ≠ "" := by
  rw [← decodeFields_ok 0, header]
  cases decoded : decodeFields 0 record.fields with
  | error flaw => simp
  | ok names =>
    dsimp only
    by_cases empty : names.all (·.isEmpty) = true
    · rw [if_pos empty]
      refine ⟨nofun, ?_⟩
      rintro ⟨same, name, member, filled⟩
      cases same
      exact absurd (String.isEmpty_iff.mp (List.all_eq_true.mp empty name member)) filled
    · rw [if_neg empty, Except.ok.injEq, Except.ok.injEq]
      constructor
      · rintro rfl
        exact ⟨rfl, by simpa using empty⟩
      · exact And.left

theorem row_ok {width number : Nat} : row width (record, number) = .ok texts ↔
    record.fields.map Sheet.cell? = texts.map some ∧ texts.length = width := by
  have same : (record.fields.map (trimBoth isByteBlank)).map Sheet.cell? = record.fields.map Sheet.cell? := by
    simp [Function.comp_def, cell_trimmed]
  have counted : record.fields.map Sheet.cell? = texts.map some → record.fields.length = texts.length := by
    intro equal
    simpa using congrArg List.length equal
  unfold row
  dsimp only
  split
  · rename_i ragged
    refine ⟨nofun, ?_⟩
    rintro ⟨equal, wide⟩
    exact absurd ((counted equal).trans wide) ragged
  · rename_i wide
    rw [← same, ← decodeFields_ok 0]
    have count : decodeFields 0 (record.fields.map (trimBoth isByteBlank)) = .ok texts → texts.length = width := by
      intro decoded
      rw [decodeFields_ok, same] at decoded
      rw [← counted decoded]
      simpa using wide
    cases decoded : decodeFields 0 (record.fields.map (trimBoth isByteBlank)) with
    | error flaw => simp
    | ok cells =>
      rw [decoded, Except.ok.injEq] at count
      dsimp only
      rw [Except.ok.injEq, Except.ok.injEq]
      exact ⟨fun equal => ⟨equal, count equal⟩, And.left⟩

-- Numbers of records only serve complaints.
theorem rows_ok {records : List Record} {width first : Nat} {rows : List (List String)} :
    (records.zipIdx first).mapM (row width) = .ok rows ↔
      records.map (fun record => record.fields.map Sheet.cell?) = rows.map (·.map some) ∧
        ∀ row ∈ rows, row.length = width := by
  rw [mapM_ok]
  induction records generalizing first rows with
  | nil => cases rows <;> simp
  | cons record records ih =>
    rw [List.zipIdx_cons]
    cases rows with
    | nil => simp
    | cons cells rows =>
      simp only [List.map_cons, List.cons.injEq, List.forall_mem_cons, row_ok, ih]
      tauto

theorem ofBytes_exact {source : String} {bytes : List UInt8} {t : Table} :
    ofBytes source bytes = .ok t ↔ ∃ s : Sheet, s.HeldBy bytes ∧ t = s.table := by
  rw [ofBytes, mapError_ok]
  unfold Sheet.HeldBy
  cases records bytes with
  | nil => simp [ofRecords]
  | cons first rest =>
    simp only [List.map_cons, List.cons.injEq]
    constructor
    · intro read
      obtain ⟨names, named, read⟩ := bind_ok.mp read
      obtain ⟨rows, filled, made⟩ := bind_ok.mp read
      cases made
      obtain ⟨top, name⟩ := header_ok.mp named
      obtain ⟨cells, wide⟩ := rows_ok.mp filled
      have trimmed : ∀ row ∈ names :: rows, ∀ text ∈ row, Trimmed text := by
        refine List.forall_mem_cons.mpr ⟨Sheet.cells_trimmed top, ?_⟩
        intro row member
        have listed : row.map some ∈ rest.map fun record => record.fields.map Sheet.cell? :=
          cells ▸ List.mem_map_of_mem member
        obtain ⟨record, _, same⟩ := List.mem_map.mp listed
        exact Sheet.cells_trimmed same
      exact ⟨⟨names, rows, name, wide, trimmed⟩, ⟨top, cells⟩, rfl⟩
    · rintro ⟨s, ⟨top, cells⟩, rfl⟩
      exact bind_ok.mpr ⟨s.header, header_ok.mpr ⟨top, s.named⟩,
        bind_ok.mpr ⟨s.rows, rows_ok.mpr ⟨cells, s.rectangular⟩, rfl⟩⟩

end Table
end BenchCharts
