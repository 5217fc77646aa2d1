import BenchCharts.Proofs.Text.Utf8

namespace BenchCharts.Text.Utf8

variable {m n : Nat} {xs ys : List UInt8} {c d : Char}

theorem byte_lt (small : n < 256) (order : m ≤ n) (later : m = n → xs < ys) :
    UInt8.ofNat m :: xs < UInt8.ofNat n :: ys := by
  rw [List.cons_lt_cons_iff, UInt8.lt_iff_toNat_lt, toNat_byte (Nat.lt_of_le_of_lt order small), toNat_byte small]
  rcases Nat.lt_or_eq_of_le order with less | same
  · exact .inl less
  · exact .inr ⟨congrArg UInt8.ofNat same, later same⟩

theorem lead_lt (small : n < 256) (less : m < n) : UInt8.ofNat m :: xs < UInt8.ofNat n :: ys :=
  byte_lt small (Nat.le_of_lt less) fun same => absurd same (Nat.ne_of_lt less)

theorem utf8EncodeChar_lt (less : c.toNat < d.toNat) (xs ys : List UInt8) :
    String.utf8EncodeChar c ++ xs < String.utf8EncodeChar d ++ ys := by
  have valid : d.val.toNat < 0xD800 ∨ 0xDFFF < d.val.toNat ∧ d.val.toNat < 0x110000 := d.valid
  change c.val.toNat < d.val.toNat at less
  unfold String.utf8EncodeChar
  generalize c.val.toNat = v at less ⊢
  generalize d.val.toNat = w at less valid ⊢
  dsimp only
  -- A longer form has a greater lead byte. In forms of one length the bytes are the digits of the
  -- numbers, the weightiest first.
  repeat' split
  all_goals simp only [List.cons_append, List.nil_append]
  all_goals try omega
  · exact lead_lt (by omega) less
  · exact lead_lt (by omega) (by omega)
  · exact lead_lt (by omega) (by omega)
  · exact lead_lt (by omega) (by omega)
  · refine byte_lt (by omega) (by omega) fun first => ?_
    exact lead_lt (by omega) (by omega)
  · exact lead_lt (by omega) (by omega)
  · exact lead_lt (by omega) (by omega)
  · refine byte_lt (by omega) (by omega) fun first => ?_
    refine byte_lt (by omega) (by omega) fun second => ?_
    exact lead_lt (by omega) (by omega)
  · exact lead_lt (by omega) (by omega)
  · refine byte_lt (by omega) (by omega) fun first => ?_
    refine byte_lt (by omega) (by omega) fun second => ?_
    refine byte_lt (by omega) (by omega) fun third => ?_
    exact lead_lt (by omega) (by omega)

theorem flatMap_lt {cs ds : List Char} (less : cs < ds) :
    cs.flatMap String.utf8EncodeChar < ds.flatMap String.utf8EncodeChar := by
  induction less with
  | @nil d ds =>
    rw [List.flatMap_cons]
    have filled : String.utf8EncodeChar d ≠ [] := by
      intro empty
      have size := String.length_utf8EncodeChar d
      rw [empty] at size
      exact absurd size.symm (Nat.ne_of_gt d.utf8Size_pos)
    obtain ⟨b, bytes, same⟩ := List.exists_cons_of_ne_nil filled
    rw [same]
    exact .nil
  | cons _ ih => exact List.append_left_lt ih
  | rel first => exact utf8EncodeChar_lt first _ _

theorem encode_lt {one two : String} : encode one < encode two ↔ one < two := by
  refine ⟨?_, flatMap_lt⟩
  intro less
  by_contra order
  rcases Std.le_iff_lt_or_eq.mp (String.not_lt.mp order) with more | same
  · exact List.lt_asymm less (flatMap_lt more)
  · rw [same] at less
    exact List.lt_irrefl _ less

end BenchCharts.Text.Utf8
