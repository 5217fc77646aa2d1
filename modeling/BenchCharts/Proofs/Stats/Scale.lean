import BenchCharts.Proofs.Number.Closest
import BenchCharts.Stats

namespace BenchCharts.UnitScale
open Number

variable {v w : Float} {e : Nat}

theorem divided_by_one (defined : v.isNaN = false) : v / 1.0 = v := by
  have one : Positive 1.0 := positive_exact.mpr (by decide)
  cases finite : v.isFinite with
  | false => exact infinite_div one defined finite
  | true =>
    rw [div_nearest finite one.finite one.some, units_one, nearestBits_unitsOf (isFinite_iff.mp finite), one.sign,
      Bool.xor_false]
    exact ofSize_toBits v

theorem multiplied_by_one (defined : v.isNaN = false) : v * 1.0 = v := by
  have one : Positive 1.0 := positive_exact.mpr (by decide)
  cases finite : v.isFinite with
  | false => exact infinite_mul one defined finite
  | true =>
    have unit : 0 < unitsPerOne := pow2_pos _
    rw [mul_nearest finite one.finite, units_one, nearestBits_scaled _ unit unit,
      nearestBits_unitsOf (isFinite_iff.mp finite), one.sign, Bool.xor_false]
    exact ofSize_toBits v

theorem units_thousand : unitsOf (size 1000.0) = 1000 * unitsPerOne := by decide +kernel

theorem value_thousand : value 1000.0 = 1000 := (value_whole (by decide) units_thousand).trans Nat.cast_ofNat

theorem thousand_positive : Positive 1000.0 := positive_exact.mpr (by decide)

theorem apply_rounds (finite : v.isFinite = true) : Rounds (millisToSecs.apply v) (value v / 1000) := by
  rw [← value_thousand]
  exact div_rounds finite thousand_positive.finite thousand_positive.units

theorem revert_rounds (finite : v.isFinite = true) : Rounds (millisToSecs.revert v) (value v * 1000) := by
  rw [← value_thousand]
  exact mul_rounds finite thousand_positive.finite

theorem apply_finite (finite : v.isFinite = true) : (millisToSecs.apply v).isFinite = true :=
  div_finite finite thousand_positive.finite (by decide)

-- Both results take the sign of the value, that of a zero included.
theorem apply_sign (finite : v.isFinite = true) : isNegative (millisToSecs.apply v) = isNegative v := by
  change isNegative (v / 1000.0) = _
  rw [div_nearest finite thousand_positive.finite thousand_positive.some, isNegative_ofSize _ (nearestBits_le _ _),
    thousand_positive.sign, Bool.xor_false]

theorem revert_sign (finite : v.isFinite = true) : isNegative (millisToSecs.revert v) = isNegative v := by
  change isNegative (v * 1000.0) = _
  rw [mul_nearest finite thousand_positive.finite, isNegative_ofSize _ (nearestBits_le _ _), thousand_positive.sign,
    Bool.xor_false]

theorem apply_error (finite : v.isFinite = true) (low : e ≤ 1012) (large : 1 / 2 ^ e ≤ |value v|) :
    |value (millisToSecs.apply v) - value v / 1000| ≤ |value v| / 1000 / 2 ^ 53 := by
  have thousandth : |value v / 1000| = |value v| / 1000 := by
    rw [abs_div, abs_of_pos (by norm_num : (0 : ℚ) < 1000)]
  have normal : 1 / 2 ^ (e + 10) ≤ |value v / 1000| := by
    have shifted : (1 : ℚ) / 2 ^ (e + 10) = 1 / 2 ^ e / 1024 := by rw [pow_add, div_div]; norm_num
    rw [shifted, thousandth]
    linarith [abs_nonneg (value v)]
  rw [← thousandth]
  exact (apply_rounds finite).error (apply_finite finite) (by omega) normal

-- The second rounding starts from a value that is off by one part in 2^53 already.
theorem reverted_error (finite : v.isFinite = true) (low : e ≤ 1012) (large : 1 / 2 ^ e ≤ |value v|)
    (small : |value v| ≤ 2 ^ e) : (millisToSecs.revert (millisToSecs.apply v)).isFinite = true ∧
      |value (millisToSecs.revert (millisToSecs.apply v)) - value v| ≤ |value v| / 2 ^ 51 := by
  have first := apply_error finite low large
  have rounds := revert_rounds (apply_finite finite)
  generalize millisToSecs.apply v = w at *
  have some : 0 ≤ |value v| := abs_nonneg _
  have scaled : |value w * 1000 - value v| ≤ |value v| / 2 ^ 53 := by
    have factor : value w * 1000 - value v = (value w - value v / 1000) * 1000 := by ring
    rw [factor, abs_mul, abs_of_pos (by norm_num : (0 : ℚ) < 1000)]
    linarith
  have above : |value w * 1000| ≤ 2 * |value v| := by
    have apart := abs_sub_abs_le_abs_sub (value w * 1000) (value v)
    linarith
  have below : |value v| ≤ 2 * |value w * 1000| := by
    have apart := abs_sub_abs_le_abs_sub (value v) (value w * 1000)
    rw [abs_sub_comm] at apart
    linarith
  have bounded : (millisToSecs.revert w).isFinite = true := by
    apply rounds.finite (e := e + 2) (by omega)
    have room : (0 : ℚ) < 2 ^ e := pow_pos two_pos e
    rw [pow_add]
    linarith
  have second : |value (millisToSecs.revert w) - value w * 1000| ≤ |value w * 1000| / 2 ^ 53 := by
    apply rounds.error bounded (e := e + 1) (by omega)
    have half : (1 : ℚ) / 2 ^ (e + 1) = 1 / 2 ^ e / 2 := by rw [pow_succ, div_div]
    rw [half]
    linarith
  refine ⟨bounded, ?_⟩
  calc |value (millisToSecs.revert w) - value v|
    _ ≤ |value (millisToSecs.revert w) - value w * 1000| + |value w * 1000 - value v| := abs_sub_le _ _ _
    _ ≤ |value v| / 2 ^ 51 := by linarith

theorem conversions_revert (v : Float) :
    (v.isFinite = true → (value v = 0 ∨ 1 / 2 ^ 1000 ≤ |value v| ∧ |value v| ≤ 2 ^ 1000) →
      (millisToSecs.revert (millisToSecs.apply v)).isFinite = true ∧
      isNegative (millisToSecs.revert (millisToSecs.apply v)) = isNegative v ∧
      |value (millisToSecs.revert (millisToSecs.apply v)) - value v| ≤ |value v| / 2 ^ 51) ∧
    (v.isNaN = false → (identity.apply v).toBits = v.toBits ∧ (identity.revert v).toBits = v.toBits) := by
  constructor
  · intro finite range
    have sign : isNegative (millisToSecs.revert (millisToSecs.apply v)) = isNegative v := by
      rw [revert_sign (apply_finite finite), apply_sign finite]
    rcases range with none | ⟨large, small⟩
    · have first := apply_rounds finite
      rw [none, zero_div] at first
      obtain ⟨_, nothing⟩ := rounds_zero first
      have second := revert_rounds (apply_finite finite)
      rw [nothing, zero_mul] at second
      obtain ⟨bounded, still⟩ := rounds_zero second
      refine ⟨bounded, sign, ?_⟩
      rw [still, none]
      simp
    · obtain ⟨bounded, error⟩ := reverted_error finite (by omega) large small
      exact ⟨bounded, sign, error⟩
  · intro defined
    have divided : identity.apply v = v := divided_by_one defined
    have multiplied : identity.revert v = v := multiplied_by_one defined
    rw [divided, multiplied]
    exact ⟨rfl, rfl⟩

-- A value that does not come back as it was, and an infinite one.
theorem conversions_revert_uneven : (-1001.0 : Float).isFinite = true ∧ 1 / 2 ^ 1000 ≤ |value (-1001.0)| ∧
    |value (-1001.0)| ≤ 2 ^ 1000 ∧ millisToSecs.revert (millisToSecs.apply (-1001.0)) ≠ -1001.0 ∧
    |value (millisToSecs.revert (millisToSecs.apply (-1001.0))) - value (-1001.0)| ≤ |value (-1001.0)| / 2 ^ 51 ∧
    (identity.apply (-1.0 / 0.0)).toBits = (-1.0 / 0.0 : Float).toBits := by
  have finite : (-1001.0 : Float).isFinite = true := by decide
  have units : unitsOf (size (-1001.0)) = 1001 * unitsPerOne := by decide +kernel
  have magnitude : |value (-1001.0)| = 1001 := by
    rw [abs_value, units, Nat.cast_mul, mul_div_cancel_right₀ _ unitsPerOne_pos.ne', Nat.cast_ofNat]
  have large : 1 / 2 ^ 1000 ≤ |value (-1001.0)| := by
    rw [magnitude, div_le_iff₀ (pow_pos two_pos 1000)]
    exact one_le_mul_of_one_le_of_one_le (by norm_num) (one_le_pow₀ one_le_two)
  have small : |value (-1001.0)| ≤ 2 ^ 1000 := by
    rw [magnitude]
    calc (1001 : ℚ) ≤ 2 ^ 10 := by norm_num
      _ ≤ 2 ^ 1000 := pow_le_pow_right₀ one_le_two (by decide)
  obtain ⟨_, _, error⟩ := (conversions_revert (-1001.0)).1 finite (.inr ⟨large, small⟩)
  have infinite := (conversions_revert (-1.0 / 0.0)).2 (by decide)
  exact ⟨finite, large, small, by decide +kernel, error, infinite.1⟩

end BenchCharts.UnitScale
