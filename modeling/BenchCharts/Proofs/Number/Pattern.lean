import BenchCharts.Number.Exact
import Mathlib

namespace BenchCharts.Number
open Float.Model Float.Model.UnpackedFloat

theorem ofSize_toBits (x : Float) : ofSize (x.toBits.toNat / pow2 63 % 2 == 1) (x.toBits.toNat % pow2 63) = x := by
  have bounded : x.toBits.toNat < 2 ^ 64 := x.toBits.toNat_lt
  have whole : (if x.toBits.toNat / pow2 63 % 2 == 1 then pow2 63 + x.toBits.toNat % pow2 63
      else x.toBits.toNat % pow2 63) = x.toBits.toNat := by
    simp only [pow2, Nat.pow_eq, beq_iff_eq]
    split <;> omega
  rw [ofSize, whole, UInt64.ofNat_toNat, Float.ofBits_toBits]

-- The float that stands for a number given as a canonical form.
def Exact.float : Exact → Float
  | .undefined => Number.undefined
  | .infinite negative => ofSize negative infinityBits
  | .finite negative m s => ofSize negative (s * pow2 52 + m)

theorem bits_undefined (x : Float) (exponent : x.toBits.toNat / pow2 52 % pow2 11 = 2047)
    (fraction : x.toBits.toNat % pow2 52 ≠ 0) : x = undefined := by
  obtain ⟨⟨bits, valid⟩⟩ := x
  have same : bits.toBitVec = packedNaN .binary64 := by
    refine valid.eq_packedNaN ?_ ?_
    · apply BitVec.eq_of_toNat_eq
      simpa [unpackExponent, Nat.shiftRight_eq_div_pow, Float.toBits, pow2] using exponent
    · intro none
      apply fraction
      simpa [unpackMantissa, Float.toBits, pow2] using congrArg BitVec.toNat none
  rw [← Float.ofBits_toBits ⟨bits, valid⟩]
  unfold undefined Float.toBits
  congr 1
  exact UInt64.toBitVec_inj.mp same

theorem float_exact (x : Float) : (exact x).float = x := by
  have whole := ofSize_toBits x
  unfold exact Exact.ofBits
  dsimp only
  by_cases top : x.toBits.toNat / pow2 52 % pow2 11 = 2047
  · by_cases none : x.toBits.toNat % pow2 52 = 0
    · have size : x.toBits.toNat % pow2 63 = infinityBits := by
        simp only [pow2, Nat.pow_eq, Nat.reducePow, infinityBits] at *
        omega
      rw [size] at whole
      rw [if_pos top, if_pos none]
      exact whole
    · rw [if_pos top, if_neg none]
      exact (bits_undefined x top none).symm
  · rw [if_neg top]
    by_cases zero : x.toBits.toNat / pow2 52 % pow2 11 = 0
    · have size : x.toBits.toNat % pow2 63 = 0 * pow2 52 + x.toBits.toNat % pow2 52 := by
        simp only [pow2, Nat.pow_eq, Nat.reducePow] at *
        omega
      rw [size] at whole
      rw [if_pos zero]
      exact whole
    · have size : x.toBits.toNat % pow2 63 =
          (x.toBits.toNat / pow2 52 % pow2 11 - 1) * pow2 52 + (pow2 52 + x.toBits.toNat % pow2 52) := by
        simp only [pow2, Nat.pow_eq, Nat.reducePow] at *
        omega
      rw [size] at whole
      rw [if_neg zero]
      exact whole

theorem exact_finite {x : Float} {negative : Bool} {m s : Nat} (finite : exact x = .finite negative m s) :
    m < pow2 53 ∧ s ≤ 2045 ∧ (s = 0 ∨ pow2 52 ≤ m) := by
  unfold exact Exact.ofBits at finite
  dsimp only at finite
  split at finite
  · split at finite <;> cases finite
  · rename_i low
    split at finite
    · rename_i zero
      cases finite
      refine ⟨?_, Nat.zero_le _, .inl rfl⟩
      simp only [pow2, Nat.pow_eq, Nat.reducePow] at *
      omega
    · rename_i some
      cases finite
      simp only [pow2, Nat.pow_eq, Nat.reducePow] at *
      omega

end BenchCharts.Number
