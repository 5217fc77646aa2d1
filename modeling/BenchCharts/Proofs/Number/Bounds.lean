import BenchCharts.Proofs.Number.Arithmetic
import BenchCharts.Proofs.Number.Order

namespace BenchCharts.Number
open Float.Model

variable {x y : Float} {k : Nat}

theorem compare_known (found : x.toModel.unpack.compare y.toModel.unpack ≠ none) :
    x.isNaN = false ∧ y.isNaN = false := by
  have one : x.isNaN = false := by
    rw [Bool.eq_false_iff, ne_eq, isNaN_iff]
    rcases unpack_cases x with ⟨undefined, _⟩ | sized
    · simp [undefined, UnpackedFloat.compare] at found
    · exact sized.le.not_gt
  exact ⟨one, Bool.eq_false_iff.mpr fun two => found ((compare_undefined _ _ one).mpr two)⟩

theorem le_exact : x ≤ y ↔ x.isNaN = false ∧ y.isNaN = false ∧ signed x ≤ signed y := by
  constructor
  · intro less
    have found : x.toModel.unpack.compare y.toModel.unpack ≠ none := by
      intro none
      have model : x.toModel.unpack.le y.toModel.unpack = true := decide_eq_true_iff.mp less
      simp [UnpackedFloat.le, none] at model
    obtain ⟨one, two⟩ := compare_known found
    exact ⟨one, two, (le_iff_signed one two).mp less⟩
  · rintro ⟨one, two, less⟩
    exact (le_iff_signed one two).mpr less

theorem lt_exact : x < y ↔ x.isNaN = false ∧ y.isNaN = false ∧ signed x < signed y := by
  constructor
  · intro less
    have found : x.toModel.unpack.compare y.toModel.unpack ≠ none := by
      intro none
      have model : x.toModel.unpack.lt y.toModel.unpack = true := decide_eq_true_iff.mp less
      simp [UnpackedFloat.lt, none] at model
    obtain ⟨one, two⟩ := compare_known found
    exact ⟨one, two, (lt_iff_signed one two).mp less⟩
  · rintro ⟨one, two, less⟩
    exact (lt_iff_signed one two).mpr less

theorem le_chain {z : Float} (first : x ≤ y) (second : y ≤ z) : x ≤ z := by
  rw [le_exact] at *
  exact ⟨first.1, second.2.1, first.2.2.trans second.2.2⟩

theorem lt_chain {z : Float} (first : x < y) (second : y ≤ z) : x < z := by
  rw [lt_exact] at *
  rw [le_exact] at second
  exact ⟨first.1, second.2.1, first.2.2.trans_le second.2.2⟩

theorem le_self (defined : x.isNaN = false) : x ≤ x := (le_iff_signed defined defined).mpr le_rfl

theorem le_of_less (less : x < y) : x ≤ y := by
  obtain ⟨one, two, order⟩ := lt_exact.mp less
  exact le_exact.mpr ⟨one, two, order.le⟩

theorem not_less (more : y ≤ x) : ¬x < y := by
  rw [lt_exact, le_exact] at *
  omega

theorem larger_exact (one : x.isNaN = false) (two : y.isNaN = false) :
    larger x y = if signed x < signed y then y else x := by
  simp only [larger, one, two, lt_iff_signed one two]
  rfl

theorem infinite_unbounded (infinite : x.isInf = true) : x.isFinite = false := by
  change x.toModel.unpack.isInf = true at infinite
  change x.toModel.unpack.isFinite = false
  cases found : x.toModel.unpack <;> simp [found, UnpackedFloat.isInf] at infinite
  rfl

-- The positive finite numbers, by their sizes.
structure Positive (x : Float) : Prop where
  finite : x.isFinite = true
  sign : isNegative x = false
  some : 0 < size x

theorem positive_exact : Positive x ↔ x.isFinite = true ∧ 0.0 < x := by
  constructor
  · intro positive
    exact ⟨positive.finite, (positive_iff (defined_of_finite positive.finite)).mpr ⟨positive.sign, positive.some⟩⟩
  · rintro ⟨finite, more⟩
    obtain ⟨sign, some⟩ := (positive_iff (defined_of_finite finite)).mp more
    exact ⟨finite, sign, some⟩

theorem Positive.signed (positive : Positive x) : Number.signed x = size x := by
  simp [Number.signed, signedSize, positive.sign]

theorem Positive.of_le (positive : Positive x) (finite : y.isFinite = true) (more : x ≤ y) : Positive y := by
  obtain ⟨_, defined, larger⟩ := le_exact.mp more
  have some := positive.some
  rw [positive.signed] at larger
  rw [positive_exact, lt_exact]
  refine ⟨finite, by decide, defined, ?_⟩
  have zero := signed_zero
  omega

theorem positive_of_large (finite : y.isFinite = true) (large : 1.0 ≤ y) : Positive y :=
  (positive_exact.mpr (by decide) : Positive 1.0).of_le finite large

theorem Positive.ofSize_lt (positive : Positive x) (bounded : k ≤ infinityBits) :
    ofSize false k < x ↔ k < size x := by
  rw [lt_iff_signed (defined_ofSize false bounded) (defined_of_finite positive.finite), positive.signed,
    signed_ofSize false bounded]
  simp [signedSize]

theorem nonnegative_ofSize (bounded : k ≤ infinityBits) : 0.0 ≤ ofSize false k := by
  rw [nonnegative_iff (defined_ofSize false bounded), signed_ofSize false bounded]
  simp [signedSize]

theorem Positive.units (positive : Positive x) : 0 < unitsOf (size x) := by
  rw [Nat.pos_iff_ne_zero]
  intro none
  have same := nearestBits_unitsOf (isFinite_iff.mp positive.finite)
  rw [none, nearestBits_zero] at same
  exact positive.some.ne same

theorem units_one : unitsOf (size 1.0) = unitsPerOne := by decide +kernel

-- From the second size on, a float is at most twice the one before.
theorem unitsOf_succ (some : 0 < k) : unitsOf (k + 1) ≤ 2 * unitsOf k := by
  unfold unitsOf
  by_cases low : k + 1 < 2 ^ 52
  · rw [if_pos low, if_pos (by omega)]
    omega
  rw [if_neg low]
  by_cases last : k < 2 ^ 52
  · have next : k + 1 = 2 ^ 52 := by omega
    rw [if_pos last, next]
    omega
  rw [if_neg last]
  by_cases carry : k % 2 ^ 52 + 1 = 2 ^ 52
  · have fraction : (k + 1) % 2 ^ 52 = 0 := by omega
    have exponent : (k + 1) / 2 ^ 52 - 1 = k / 2 ^ 52 - 1 + 1 := by omega
    rw [fraction, exponent, pow_succ 2 (k / 2 ^ 52 - 1)]
    have wider : 2 ^ 52 * 2 ^ (k / 2 ^ 52 - 1) ≤ (2 ^ 52 + k % 2 ^ 52) * 2 ^ (k / 2 ^ 52 - 1) :=
      Nat.mul_le_mul_right _ (Nat.le_add_right _ _)
    omega
  · have fraction : (k + 1) % 2 ^ 52 = k % 2 ^ 52 + 1 := by omega
    have exponent : (k + 1) / 2 ^ 52 = k / 2 ^ 52 := by omega
    rw [fraction, exponent, ← Nat.mul_assoc]
    exact Nat.mul_le_mul_right _ (by omega)

theorem half_rounded (some : 0 < k) (finite : k < infinityBits) : nearestBits (unitsOf k) (2 * unitsPerOne) < k := by
  obtain ⟨j, rfl⟩ := Nat.exists_eq_succ_of_ne_zero some.ne'
  rcases Nat.eq_zero_or_pos j with rfl | more
  · decide +kernel
  · have unit : 0 < unitsPerOne := pow2_pos _
    have less : unitsOf (j + 1) * unitsPerOne ≤ unitsOf j * (2 * unitsPerOne) := by
      calc unitsOf (j + 1) * unitsPerOne ≤ 2 * unitsOf j * unitsPerOne := Nat.mul_le_mul_right _ (unitsOf_succ more)
        _ = unitsOf j * (2 * unitsPerOne) := by ring
    calc nearestBits (unitsOf (j + 1)) (2 * unitsPerOne) ≤ nearestBits (unitsOf j) unitsPerOne :=
          nearestBits_mono (Nat.mul_pos (by decide) unit) unit less
      _ = j := nearestBits_unitsOf (Nat.lt_of_succ_lt finite)
      _ < j + 1 := Nat.lt_succ_self j

theorem units_two : unitsOf (size 2.0) = 2 * unitsPerOne := by decide +kernel

-- The least number has no half, and its quotient is zero.
theorem Positive.half_lt (positive : Positive x) : 0.0 ≤ x / 2.0 ∧ x / 2.0 < x := by
  have sign : isNegative 2.0 = false := by decide
  have bounded := nearestBits_le (unitsOf (size x)) (2 * unitsPerOne)
  rw [div_nearest positive.finite (by decide) (by decide), units_two, sign, positive.sign]
  change 0.0 ≤ ofSize false _ ∧ ofSize false _ < x
  refine ⟨nonnegative_ofSize bounded, (positive.ofSize_lt bounded).mpr ?_⟩
  exact half_rounded positive.some (isFinite_iff.mp positive.finite)

end BenchCharts.Number
