import BenchCharts.Proofs.Outcome
import BenchCharts.Text.Utf8
import Mathlib.Data.List.Basic

namespace BenchCharts.Text.Utf8

variable {a b c d : UInt8} {rest : List UInt8} {done : Nat}

theorem between_iff (low high : UInt8) : (decide (low ≤ a) && decide (a < high)) = true ↔
    low.toNat ≤ a.toNat ∧ a.toNat < high.toNat := by
  rw [Bool.and_eq_true, decide_eq_true_iff, decide_eq_true_iff, UInt8.le_iff_toNat_le, UInt8.lt_iff_toNat_lt]

theorem continues_iff : continues b = true ↔ 0x80 ≤ b.toNat ∧ b.toNat < 0xC0 := between_iff 0x80 0xC0

theorem decodeFrom_one (low : a.toNat < 0x80) :
    decodeFrom done (a :: rest) = (decodeFrom (done + 1) rest).map (Char.ofNat a.toNat :: ·) := by
  have one : a < 0x80 := low
  rw [decodeFrom.eq_def]
  simp only [one, if_true]

theorem decodeFrom_two (lead : 0xC2 ≤ a.toNat ∧ a.toNat < 0xE0) (second : continues b) :
    decodeFrom done (a :: b :: rest) =
      (decodeFrom (done + 2) rest).map (Char.ofNat ((a.toNat - 0xC0) * 64 + tail b) :: ·) := by
  have one : ¬a < 0x80 := Nat.not_lt.mpr (Nat.le_trans (by decide) lead.1)
  have two := (between_iff 0xC2 0xE0).mpr lead
  rw [decodeFrom.eq_def]
  simp only [one, two, second, if_true, if_false]

theorem decodeFrom_three (lead : 0xE0 ≤ a.toNat ∧ a.toNat < 0xF0) (second : second3 a b) (third : continues c) :
    decodeFrom done (a :: b :: c :: rest) =
      (decodeFrom (done + 3) rest).map
        (Char.ofNat ((a.toNat - 0xE0) * 4096 + tail b * 64 + tail c) :: ·) := by
  have one : ¬a < 0x80 := Nat.not_lt.mpr (Nat.le_trans (by decide) lead.1)
  have two : ¬(decide (0xC2 ≤ a) && decide (a < 0xE0)) = true := fun inside =>
    Nat.not_lt.mpr lead.1 ((between_iff 0xC2 0xE0).mp inside).2
  have three := (between_iff 0xE0 0xF0).mpr lead
  rw [decodeFrom.eq_def]
  simp only [one, if_neg two, three, second, third, if_true, if_false, Bool.and_self]

theorem decodeFrom_four (lead : 0xF0 ≤ a.toNat ∧ a.toNat < 0xF5) (second : second4 a b) (third : continues c)
    (fourth : continues d) : decodeFrom done (a :: b :: c :: d :: rest) =
      (decodeFrom (done + 4) rest).map
        (Char.ofNat ((a.toNat - 0xF0) * 262144 + tail b * 4096 + tail c * 64 + tail d) :: ·) := by
  have one : ¬a < 0x80 := Nat.not_lt.mpr (Nat.le_trans (by decide) lead.1)
  have two : ¬(decide (0xC2 ≤ a) && decide (a < 0xE0)) = true := fun inside =>
    Nat.not_lt.mpr (Nat.le_trans (by decide) lead.1) ((between_iff 0xC2 0xE0).mp inside).2
  have three : ¬(decide (0xE0 ≤ a) && decide (a < 0xF0)) = true := fun inside =>
    Nat.not_lt.mpr lead.1 ((between_iff 0xE0 0xF0).mp inside).2
  have four := (between_iff 0xF0 0xF5).mpr lead
  rw [decodeFrom.eq_def]
  simp only [one, if_neg two, if_neg three, four, second, third, fourth, if_true, if_false, Bool.and_self]

theorem toNat_byte {n : Nat} (small : n < 256) : (UInt8.ofNat n).toNat = n := by
  rw [UInt8.toNat_ofNat', Nat.mod_eq_of_lt small]

theorem toNat_tail (n : Nat) : (UInt8.ofNat (n % 64 + 128)).toNat = n % 64 + 128 := by
  have small : n % 64 + 128 < 256 := by omega
  exact toNat_byte small

theorem continues_byte (n : Nat) : continues (UInt8.ofNat (n % 64 + 128)) = true := by
  refine continues_iff.mpr ?_
  rw [toNat_tail]
  omega

theorem tail_byte (n : Nat) : tail (UInt8.ofNat (n % 64 + 128)) = n % 64 := by
  have given := toNat_tail n
  unfold tail
  omega

theorem second3_iff : second3 a b = true ↔
    continues b = true ∧ (a.toNat = 0xE0 → 0xA0 ≤ b.toNat) ∧ (a.toNat = 0xED → b.toNat < 0xA0) := by
  simp [second3, UInt8.le_iff_toNat_le, UInt8.lt_iff_toNat_lt, ← UInt8.toNat_inj, and_assoc, Decidable.imp_iff_not_or]

theorem second4_iff : second4 a b = true ↔
    continues b = true ∧ (a.toNat = 0xF0 → 0x90 ≤ b.toNat) ∧ (a.toNat = 0xF4 → b.toNat < 0x90) := by
  simp [second4, UInt8.le_iff_toNat_le, UInt8.lt_iff_toNat_lt, ← UInt8.toNat_inj, and_assoc, Decidable.imp_iff_not_or]

theorem decodeFrom_char (c : Char) (rest : List UInt8) (done : Nat) :
    decodeFrom done (String.utf8EncodeChar c ++ rest) =
      (decodeFrom (done + (String.utf8EncodeChar c).length) rest).map (c :: ·) := by
  have valid : c.val.toNat < 0xD800 ∨ 0xDFFF < c.val.toNat ∧ c.val.toNat < 0x110000 := c.valid
  have same : Char.ofNat c.val.toNat = c := Char.ofNat_toNat c
  unfold String.utf8EncodeChar
  generalize c.val.toNat = v at valid same ⊢
  dsimp only
  split
  · have lead := toNat_byte (show v < 256 by omega)
    rw [List.singleton_append, decodeFrom_one (by omega), lead, same]
    rfl
  split
  · have lead := toNat_byte (show v / 64 % 32 + 192 < 256 by omega)
    have value : (v / 64 % 32 + 192 - 192) * 64 + v % 64 = v := by omega
    rw [List.cons_append, List.singleton_append, decodeFrom_two (by omega) (continues_byte v), tail_byte, lead,
      value, same]
    rfl
  split
  · have lead := toNat_byte (show v / 4096 % 16 + 224 < 256 by omega)
    have second : second3 (UInt8.ofNat (v / 4096 % 16 + 224)) (UInt8.ofNat (v / 64 % 64 + 128)) = true := by
      rw [second3_iff, lead, toNat_tail]
      exact ⟨continues_byte _, by omega, by omega⟩
    have value : (v / 4096 % 16 + 224 - 224) * 4096 + v / 64 % 64 * 64 + v % 64 = v := by omega
    rw [List.cons_append, List.cons_append, List.singleton_append,
      decodeFrom_three (by omega) second (continues_byte v), tail_byte, tail_byte, lead, value, same]
    rfl
  · have lead := toNat_byte (show v / 262144 % 8 + 240 < 256 by omega)
    have second : second4 (UInt8.ofNat (v / 262144 % 8 + 240)) (UInt8.ofNat (v / 4096 % 64 + 128)) = true := by
      rw [second4_iff, lead, toNat_tail]
      exact ⟨continues_byte _, by omega, by omega⟩
    have value : (v / 262144 % 8 + 240 - 240) * 262144 + v / 4096 % 64 * 4096 + v / 64 % 64 * 64 + v % 64 = v := by
      omega
    rw [List.cons_append, List.cons_append, List.cons_append, List.singleton_append,
      decodeFrom_four (by omega) second (continues_byte (v / 64)) (continues_byte v), tail_byte, tail_byte, tail_byte,
      lead, value, same]
    rfl

theorem decodeFrom_chars (cs : List Char) (done : Nat) :
    decodeFrom done (cs.flatMap String.utf8EncodeChar) = .ok cs := by
  induction cs generalizing done with
  | nil => rfl
  | cons c cs ih => rw [List.flatMap_cons, decodeFrom_char, ih, Except.map]

theorem decode_encode (text : String) : decode (encode text) = .ok text := by
  rw [decode, encode, decodeFrom_chars, Except.map, String.ofList_toList]

theorem byte_of {n : Nat} (same : n = a.toNat) : UInt8.ofNat n = a := by
  rw [same, UInt8.ofNat_toNat]

theorem val_ofNat {n : Nat} (valid : n < 0xD800 ∨ 0xDFFF < n ∧ n < 0x110000) : (Char.ofNat n).val.toNat = n := by
  rw [Char.ofNat, dif_pos valid]
  rfl

theorem char_one (low : a.toNat < 0x80) : String.utf8EncodeChar (Char.ofNat a.toNat) = [a] := by
  unfold String.utf8EncodeChar
  rw [val_ofNat (by omega)]
  simp only [show a.toNat ≤ 0x7F by omega, if_true, byte_of rfl]

theorem char_two (lead : 0xC2 ≤ a.toNat ∧ a.toNat < 0xE0) (second : continues b = true) :
    String.utf8EncodeChar (Char.ofNat ((a.toNat - 0xC0) * 64 + tail b)) = [a, b] := by
  have next := continues_iff.mp second
  unfold String.utf8EncodeChar tail
  rw [val_ofNat (by omega)]
  dsimp only
  rw [if_neg (by omega), if_pos (by omega), byte_of (by omega : _ = a.toNat), byte_of (by omega : _ = b.toNat)]

theorem char_three (lead : 0xE0 ≤ a.toNat ∧ a.toNat < 0xF0) (second : second3 a b = true) (third : continues c = true) :
    String.utf8EncodeChar (Char.ofNat ((a.toNat - 0xE0) * 4096 + tail b * 64 + tail c)) = [a, b, c] := by
  obtain ⟨middle, least, most⟩ := second3_iff.mp second
  have next := continues_iff.mp middle
  have last := continues_iff.mp third
  unfold String.utf8EncodeChar tail
  rw [val_ofNat (by omega)]
  dsimp only
  rw [if_neg (by omega), if_neg (by omega), if_pos (by omega), byte_of (by omega : _ = a.toNat),
    byte_of (by omega : _ = b.toNat), byte_of (by omega : _ = c.toNat)]

theorem char_four (lead : 0xF0 ≤ a.toNat ∧ a.toNat < 0xF5) (second : second4 a b = true) (third : continues c = true)
    (fourth : continues d = true) :
    String.utf8EncodeChar (Char.ofNat ((a.toNat - 0xF0) * 262144 + tail b * 4096 + tail c * 64 + tail d)) =
      [a, b, c, d] := by
  obtain ⟨middle, least, most⟩ := second4_iff.mp second
  have next := continues_iff.mp middle
  have later := continues_iff.mp third
  have last := continues_iff.mp fourth
  unfold String.utf8EncodeChar tail
  rw [val_ofNat (by omega)]
  dsimp only
  rw [if_neg (by omega), if_neg (by omega), if_neg (by omega), byte_of (by omega : _ = a.toNat),
    byte_of (by omega : _ = b.toNat), byte_of (by omega : _ = c.toNat), byte_of (by omega : _ = d.toNat)]

theorem decodeFrom_sound {bytes : List UInt8} {cs : List Char} (read : decodeFrom done bytes = .ok cs) :
    bytes = cs.flatMap String.utf8EncodeChar := by
  fun_induction decodeFrom done bytes generalizing cs with
  | case1 =>
    cases read
    rfl
  | case2 done a rest low ih =>
    obtain ⟨later, decoded, rfl⟩ := map_ok.mp read
    rw [List.flatMap_cons, char_one low, ← ih decoded]
    rfl
  | case3 done a _ lead b rest second ih =>
    obtain ⟨later, decoded, rfl⟩ := map_ok.mp read
    rw [List.flatMap_cons, char_two ((between_iff _ _).mp lead) second, ← ih decoded]
    rfl
  | case6 done a _ _ lead b c rest tails ih =>
    obtain ⟨later, decoded, rfl⟩ := map_ok.mp read
    obtain ⟨second, third⟩ := Bool.and_eq_true_iff.mp tails
    rw [List.flatMap_cons, char_three ((between_iff _ _).mp lead) second third, ← ih decoded]
    rfl
  | case9 done a _ _ _ lead b c d rest tails ih =>
    obtain ⟨later, decoded, rfl⟩ := map_ok.mp read
    obtain ⟨front, fourth⟩ := Bool.and_eq_true_iff.mp tails
    obtain ⟨second, third⟩ := Bool.and_eq_true_iff.mp front
    rw [List.flatMap_cons, char_four ((between_iff _ _).mp lead) second third fourth, ← ih decoded]
    rfl
  | _ => cases read

theorem decode_exact {bytes : List UInt8} {text : String} : decode bytes = .ok text ↔ bytes = encode text := by
  constructor
  · intro read
    obtain ⟨cs, decoded, rfl⟩ := map_ok.mp read
    rw [encode, String.toList_ofList, ← decodeFrom_sound decoded]
  · rintro rfl
    exact decode_encode text

theorem text_exact {bytes : List UInt8} {text : String} : text? bytes = some text ↔ bytes = encode text := by
  rw [← decode_exact, text?]
  cases decode bytes <;> simp [Except.toOption]

theorem encode_append (one two : String) : encode (one ++ two) = encode one ++ encode two := by
  simp [encode]

theorem low_byte {c : Char} (member : b ∈ String.utf8EncodeChar c) (low : b.toNat < 0x80) : c.toNat = b.toNat := by
  have high : ∀ n base, 128 ≤ base → n + base < 256 → b = UInt8.ofNat (n + base) → False := by
    intro n base lead small same
    rw [same, toNat_byte small] at low
    omega
  unfold String.utf8EncodeChar at member
  change c.val.toNat = _
  generalize c.val.toNat = v at member ⊢
  dsimp only at member
  split at member
  · cases List.mem_singleton.mp member
    rw [toNat_byte (by omega)]
  · -- The bytes of a longer form all carry their highest bit.
    exfalso
    split at member
    · simp only [List.mem_cons, List.not_mem_nil, or_false] at member
      rcases member with same | same <;> exact high _ _ (by decide) (by omega) same
    split at member
    · simp only [List.mem_cons, List.not_mem_nil, or_false] at member
      rcases member with same | same | same <;> exact high _ _ (by decide) (by omega) same
    · simp only [List.mem_cons, List.not_mem_nil, or_false] at member
      rcases member with same | same | same | same <;> exact high _ _ (by decide) (by omega) same

theorem low_char {b : UInt8} {c : Char} (member : b ∈ String.utf8EncodeChar c) (low : c.toNat < 0x80) :
    b.toNat = c.toNat := by
  have short : c.val.toNat ≤ 0x7F := Nat.le_of_lt_succ low
  rw [String.utf8EncodeChar] at member
  simp only [short, if_true, List.mem_singleton] at member
  rw [member, toNat_byte (by omega)]
  rfl

theorem mem_encode {text : String} (member : b ∈ encode text) (low : b.toNat < 0x80) :
    ∃ c ∈ text.toList, c.toNat = b.toNat := by
  obtain ⟨c, inside, here⟩ := List.mem_flatMap.mp member
  exact ⟨c, inside, low_byte here low⟩

theorem encode_low {bytes : List UInt8} (low : ∀ b ∈ bytes, b.toNat < 0x80) :
    ∃ text : String, encode text = bytes ∧ ∀ c ∈ text.toList, ∃ b ∈ bytes, c.toNat = b.toNat := by
  refine ⟨.ofList (bytes.map fun b => Char.ofNat b.toNat), ?_, ?_⟩
  · rw [encode, String.toList_ofList, List.flatMap_map]
    induction bytes with
    | nil => rfl
    | cons b bytes ih =>
      obtain ⟨first, others⟩ := List.forall_mem_cons.mp low
      rw [List.flatMap_cons, char_one first, ih others]
      rfl
  · rw [String.toList_ofList]
    intro c member
    obtain ⟨b, inside, rfl⟩ := List.mem_map.mp member
    exact ⟨b, inside, val_ofNat (.inl (Nat.lt_trans (low b inside) (by decide)))⟩

section Failure

variable {bytes : List UInt8} {readable : Nat}

def IsText (bytes : List UInt8) : Prop := ∃ text, bytes = encode text

-- Bytes that are no text, with the length of the longest text at their beginning.
structure Broken (bytes : List UInt8) (readable : Nat) : Prop where
  unreadable : ¬IsText bytes
  reached : ∃ text rest, bytes = encode text ++ rest ∧ (encode text).length = readable
  longest : ∀ text rest, bytes = encode text ++ rest → (encode text).length ≤ readable

theorem Broken.unique {other : Nat} (one : Broken bytes readable) (two : Broken bytes other) : readable = other := by
  obtain ⟨text, rest, split, rfl⟩ := one.reached
  obtain ⟨text', rest', split', rfl⟩ := two.reached
  exact Nat.le_antisymm (two.longest _ _ split) (one.longest _ _ split')

-- A text at the beginning is passed over.
theorem decodeFrom_text (text : String) (rest : List UInt8) (done : Nat) :
    decodeFrom done (encode text ++ rest) = .error readable ↔
      decodeFrom (done + (encode text).length) rest = .error readable := by
  unfold encode
  induction text.toList generalizing done with
  | nil => simp
  | cons c cs ih =>
    rw [List.flatMap_cons, List.append_assoc, decodeFrom_char, map_error, ih, List.length_append, Nat.add_assoc]

-- The bytes end their readable beginning at a count.
def Reaches (done : Nat) (bytes : List UInt8) (readable : Nat) : Prop :=
  ∃ text rest, bytes = encode text ++ rest ∧ readable = done + (encode text).length

theorem Reaches.char {rest lead : List UInt8} {c : Char} (front : String.utf8EncodeChar c = lead)
    (reaches : Reaches (done + lead.length) rest readable) : Reaches done (lead ++ rest) readable := by
  obtain ⟨text, later, rfl, rfl⟩ := reaches
  have whole : encode (.ofList (c :: text.toList)) = lead ++ encode text := by
    simp [encode, front]
  refine ⟨.ofList (c :: text.toList), later, ?_, ?_⟩
  · rw [whole, List.append_assoc]
  · rw [whole, List.length_append, Nat.add_assoc]

theorem decodeFrom_reaches (failed : decodeFrom done bytes = .error readable) : Reaches done bytes readable := by
  fun_induction decodeFrom done bytes generalizing readable with
  | case1 => cases failed
  | case2 done a rest low ih => exact (ih (map_error.mp failed)).char (char_one low)
  | case3 done a _ lead b rest second ih =>
    exact (ih (map_error.mp failed)).char (char_two ((between_iff _ _).mp lead) second)
  | case6 done a _ _ lead b c rest tails ih =>
    obtain ⟨second, third⟩ := Bool.and_eq_true_iff.mp tails
    exact (ih (map_error.mp failed)).char (char_three ((between_iff _ _).mp lead) second third)
  | case9 done a _ _ _ lead b c d rest tails ih =>
    obtain ⟨front, fourth⟩ := Bool.and_eq_true_iff.mp tails
    obtain ⟨second, third⟩ := Bool.and_eq_true_iff.mp front
    exact (ih (map_error.mp failed)).char (char_four ((between_iff _ _).mp lead) second third fourth)
  | _ =>
    cases failed
    exact ⟨"", _, rfl, rfl⟩

theorem decode_broken (failed : decode bytes = .error readable) : Broken bytes readable := by
  have inner : decodeFrom 0 bytes = .error readable := map_error.mp failed
  refine ⟨?_, ?_, ?_⟩
  · rintro ⟨text, whole⟩
    rw [decode_exact.mpr whole] at failed
    cases failed
  · obtain ⟨text, rest, split, count⟩ := decodeFrom_reaches inner
    exact ⟨text, rest, split, by omega⟩
  · rintro text rest rfl
    obtain ⟨_, _, _, count⟩ := decodeFrom_reaches ((decodeFrom_text text rest 0).mp inner)
    omega

theorem decode_error : decode bytes = .error readable ↔ Broken bytes readable := by
  refine ⟨decode_broken, ?_⟩
  intro broken
  cases decoded : decode bytes with
  | ok text => exact absurd ⟨text, decode_exact.mp decoded⟩ broken.unreadable
  | error other => rw [broken.unique (decode_broken decoded)]

end Failure

end BenchCharts.Text.Utf8
