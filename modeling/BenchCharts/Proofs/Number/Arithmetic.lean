import BenchCharts.Proofs.Number.Significand

namespace BenchCharts.Number
open Float.Model Float.Model.UnpackedFloat

variable {M m n s t k l : Nat} {negative other : Bool} {f g : UnpackedFloat} {x y : Float}

theorem signOf_mul : signOf negative * signOf other = signOf (negative ^^ other) := by
  cases negative <;> cases other <;> rfl

theorem signOf_div : signOf negative / signOf other = signOf (negative ^^ other) := by
  cases negative <;> cases other <;> rfl

theorem units_pow (j : Nat) : 2 ^ (j + 1074) = 2 ^ j * unitsPerOne := pow2_add j 1074

-- Two factors without their first bits are so small that the least exponent holds their product.
theorem Canonical.mul (one : Canonical m s) (two : Canonical n t) :
    Float.ofModel (.pack (.mul .binary64 (.finite (signOf negative) m (s - 1074) one.positive)
      (.finite (signOf other) n (t - 1074) two.positive))) =
      ofSize (negative ^^ other) (nearestBits (m * 2 ^ s * (n * 2 ^ t)) (unitsPerOne * unitsPerOne)) := by
  have positive : 0 < unitsPerOne := pow2_pos _
  have product : 0 < m * n := Nat.mul_pos one.positive two.positive
  rw [UnpackedFloat.mul, signOf_mul]
  apply round_nearest (reads_exact _) ?_ (Nat.mul_pos positive positive)
  · have wide (filled : 2 ^ 52 ≤ m * n) : 52 ≤ (m * n).log2 := (Nat.le_log2 product.ne').mpr filled
    rw [targetExponent_eq, totalExponent]
    rcases one.full with rfl | full
    · rcases two.full with rfl | full
      · omega
      · have := wide (full.trans (Nat.le_mul_of_pos_left n one.positive))
        omega
    · have := wide (full.trans (Nat.le_mul_of_pos_right m two.positive))
      omega
  · intro k j place
    have exponents : j + 1074 = s + t + k := by omega
    have powers : 2 ^ j * unitsPerOne = 2 ^ s * 2 ^ t * 2 ^ k := by
      rw [← units_pow, exponents, Nat.pow_add, Nat.pow_add]
    calc m * n * 2 ^ j * (unitsPerOne * unitsPerOne) = m * n * (2 ^ j * unitsPerOne) * unitsPerOne := by ring
      _ = m * 2 ^ s * (n * 2 ^ t) * unitsPerOne * (1 * 2 ^ k) := by rw [powers]; ring

-- The dividend is shifted until the whole quotient has all its bits.
theorem Canonical.div (one : Canonical m s) (two : Canonical n t) :
    Float.ofModel (.pack (.div .binary64 (.finite (signOf negative) m (s - 1074) one.positive)
      (.finite (signOf other) n (t - 1074) two.positive))) =
      ofSize (negative ^^ other) (nearestBits (m * 2 ^ s) (n * 2 ^ t)) := by
  obtain ⟨e, exponent⟩ : ∃ e, min ((s : Int) - 1074 - (t - 1074)) (Format.binary64.targetExponent
    (totalExponent m (s - 1074) - totalExponent n (t - 1074))) = e := ⟨_, rfl⟩
  obtain ⟨k, amount⟩ : ∃ k : Nat, (s : Int) - 1074 - (t - 1074) = e + k :=
    (Int.le.dest (exponent ▸ Int.min_le_left _ _)).imp fun _ sum => sum.symm
  have shift : ((s : Int) - 1074 - (t - 1074) - e).toNat = k := by omega
  have core : divCore .binary64 m (s - 1074) n (t - 1074) =
      (m * 2 ^ k / n, e, accuracyOfFraction (m * 2 ^ k % n) n) := by
    simp only [divCore, exponent, shift, Nat.shiftLeft_eq]
  rw [UnpackedFloat.div, signOf_div]
  simp only [core]
  apply round_nearest (reads_fraction _ two.positive) ?_ (Nat.mul_pos two.positive (Nat.two_pow_pos t))
  · rw [targetExponent_eq, totalExponent] at *
    rw [totalExponent] at exponent
    by_cases least : e ≤ -1074
    · omega
    · have wide : 2 ^ 52 ≤ m * 2 ^ k / n := by
        rw [Nat.le_div_iff_mul_le two.positive]
        calc 2 ^ 52 * n ≤ 2 ^ 52 * 2 ^ (n.log2 + 1) := Nat.mul_le_mul_left _ Nat.lt_log2_self.le
          _ = 2 ^ (52 + (n.log2 + 1)) := (Nat.pow_add 2 _ _).symm
          _ ≤ 2 ^ (m.log2 + k) := Nat.pow_le_pow_right (by decide) (by omega)
          _ = 2 ^ m.log2 * 2 ^ k := Nat.pow_add 2 _ _
          _ ≤ m * 2 ^ k := Nat.mul_le_mul_right _ (Nat.log2_self_le one.positive.ne')
      have length := (Nat.le_log2 (by omega)).mpr wide
      omega
  · intro j i place
    have exponents : k + i + t = s + 1074 + j := by omega
    have powers : 2 ^ k * 2 ^ i * 2 ^ t = 2 ^ s * unitsPerOne * 2 ^ j := by
      rw [← units_pow, ← Nat.pow_add, ← Nat.pow_add, ← Nat.pow_add, exponents]
    calc m * 2 ^ k * 2 ^ i * (n * 2 ^ t) = m * n * (2 ^ k * 2 ^ i * 2 ^ t) := by ring
      _ = m * 2 ^ s * unitsPerOne * (n * 2 ^ j) := by rw [powers]; ring

theorem Sized.mul (one : Sized f negative k) (two : Sized g other l) (first : k < infinityBits)
    (second : l < infinityBits) : Float.ofModel (.pack (.mul .binary64 f g)) =
      ofSize (negative ^^ other) (nearestBits (unitsOf k * unitsOf l) (unitsPerOne * unitsPerOne)) := by
  have none : unitsOf 0 = 0 := rfl
  cases one with
  | infinity => exact absurd first (Nat.lt_irrefl _)
  | zero =>
    rw [none, Nat.zero_mul, nearestBits_zero, ← Sized.zero.pack, ← signOf_mul]
    cases two with
    | infinity => exact absurd second (Nat.lt_irrefl _)
    | zero => rfl
    | finite canonical => rfl
  | finite canonical =>
    cases two with
    | infinity => exact absurd second (Nat.lt_irrefl _)
    | zero =>
      rw [none, Nat.mul_zero, nearestBits_zero, ← Sized.zero.pack, ← signOf_mul]
      rfl
    | finite another => rw [unitsOf_canonical canonical, unitsOf_canonical another, canonical.mul another]

theorem Sized.div (one : Sized f negative k) (two : Sized g other l) (first : k < infinityBits)
    (second : l < infinityBits) (some : 0 < l) : Float.ofModel (.pack (.div .binary64 f g)) =
      ofSize (negative ^^ other) (nearestBits (unitsOf k) (unitsOf l)) := by
  have none : unitsOf 0 = 0 := rfl
  cases two with
  | infinity => exact absurd second (Nat.lt_irrefl _)
  | zero => exact absurd some (Nat.lt_irrefl _)
  | finite another =>
    cases one with
    | infinity => exact absurd first (Nat.lt_irrefl _)
    | zero =>
      rw [none, nearestBits_zero, ← Sized.zero.pack, ← signOf_div]
      rfl
    | finite canonical => rw [unitsOf_canonical canonical, unitsOf_canonical another, canonical.div another]

-- The float nearest to a number of units, and a zero of the given sign if there are none.
def ofUnits (total : Int) (negative : Bool) : Float :=
  ofSize (if total = 0 then negative else decide (total < 0)) (nearestBits total.natAbs unitsPerOne)

theorem ofUnits_signed {u : Nat} (zero : Bool) (some : 0 < u) :
    ofUnits (signedSize negative u) zero = ofSize negative (nearestBits u unitsPerOne) := by
  have sizes : (signedSize negative u).natAbs = u := by cases negative <;> simp [signedSize]
  have signs : (if signedSize negative u = 0 then zero else decide (signedSize negative u < 0)) = negative := by
    cases negative with
    | false => simp [signedSize, some.ne']
    | true =>
      simp [signedSize, some.ne']
      omega
  rw [ofUnits, sizes, signs]

theorem ofUnits_some {total : Int} (some : total ≠ 0) (negative other : Bool) :
    ofUnits total negative = ofUnits total other := by
  simp [ofUnits, some]

theorem worth_units (M j : Nat) : Worth M 1 ((j : Int) - 1074) (M * 2 ^ j) unitsPerOne := by
  intro k s place
  have exponent : s = j + k := by omega
  rw [exponent, Nat.pow_add]
  ring

theorem normalize_signed (zero : Sign) (j : Nat) (some : 0 < M) :
    Float.ofModel (.pack (UnpackedFloat.normalize .binary64 (signedSize negative M) ((j : Int) - 1074) zero)) =
      ofSize negative (nearestBits (M * 2 ^ j) unitsPerOne) := by
  have step : UnpackedFloat.normalize .binary64 (signedSize negative M) ((j : Int) - 1074) zero =
      UnpackedFloat.round .binary64 (signOf negative) M ((j : Int) - 1074) := by
    cases negative with
    | false =>
      have more : compare (M : Int) 0 = .gt := Int.compare_eq_gt.mpr (by omega)
      simp [UnpackedFloat.normalize, signedSize, signOf, more]
    | true =>
      have less : compare (-M : Int) 0 = .lt := Int.compare_eq_lt.mpr (by omega)
      simp [UnpackedFloat.normalize, signedSize, signOf, less]
  rw [step]
  exact round_whole some.ne' (worth_units M j) (pow2_pos _)

theorem normalize_units (mantissa : Int) (j : Nat) :
    Float.ofModel (.pack (UnpackedFloat.normalize .binary64 mantissa ((j : Int) - 1074) (signOf negative))) =
      ofUnits (mantissa * 2 ^ j) negative := by
  by_cases none : mantissa = 0
  · rw [none, Int.zero_mul]
    exact Sized.zero.pack.trans (by simp [ofUnits, nearestBits_zero])
  · obtain ⟨sign, M, some, rfl⟩ : ∃ sign M, 0 < M ∧ mantissa = signedSize sign M := by
      refine ⟨decide (mantissa < 0), mantissa.natAbs, by omega, ?_⟩
      simp only [signedSize, decide_eq_true_eq]
      split <;> omega
    have total : signedSize sign M * 2 ^ j = signedSize sign (M * 2 ^ j) := by
      cases sign <;> simp [signedSize]
    rw [total, ofUnits_signed negative (Nat.mul_pos some (Nat.two_pow_pos j))]
    exact normalize_signed _ j some

theorem apply_moved {j : Nat} (m : Nat) (low : j ≤ s) :
    (signOf negative).apply (m * 2 ^ (s - j) : Nat) * 2 ^ j = signedSize negative (m * 2 ^ s) := by
  have powers : m * 2 ^ (s - j) * 2 ^ j = m * 2 ^ s := by rw [Nat.mul_assoc, Nat.pow_sub_mul_pow 2 low]
  rw [← powers]
  cases negative <;> simp [signOf, Sign.apply, signedSize]

-- Both significands are moved to the lower of the two exponents.
theorem Canonical.add (one : Canonical m s) (two : Canonical n t) :
    Float.ofModel (.pack (.add .binary64 (.finite (signOf negative) m (s - 1074) one.positive)
      (.finite (signOf other) n (t - 1074) two.positive))) =
      ofUnits (signedSize negative (m * 2 ^ s) + signedSize other (n * 2 ^ t)) false := by
  have lower : min ((s : Int) - 1074) (t - 1074) = (min s t : Nat) - 1074 := by omega
  have left : ((s : Int) - 1074 - ((min s t : Nat) - 1074)).toNat = s - min s t := by omega
  have right : ((t : Int) - 1074 - ((min s t : Nat) - 1074)).toNat = t - min s t := by omega
  have sum : UnpackedFloat.add .binary64 (.finite (signOf negative) m (s - 1074) one.positive)
      (.finite (signOf other) n (t - 1074) two.positive) = UnpackedFloat.normalize .binary64
      ((signOf negative).apply (m * 2 ^ (s - min s t) : Nat) + (signOf other).apply (n * 2 ^ (t - min s t) : Nat))
      ((min s t : Nat) - 1074) (signOf false) := by
    simp only [UnpackedFloat.add, decreaseExponent, lower, left, right, Nat.shiftLeft_eq]
    rfl
  rw [sum, normalize_units, Int.add_mul, apply_moved m (Nat.min_le_left s t), apply_moved n (Nat.min_le_right s t)]

theorem Canonical.units_pos (canonical : Canonical m s) : 0 < m * 2 ^ s :=
  Nat.mul_pos canonical.positive (Nat.two_pow_pos s)

theorem Sized.add (one : Sized f negative k) (two : Sized g other l) (first : k < infinityBits)
    (second : l < infinityBits) : Float.ofModel (.pack (.add .binary64 f g)) =
      ofUnits (signedSize negative (unitsOf k) + signedSize other (unitsOf l)) (negative && other) := by
  have none (sign : Bool) : signedSize sign (unitsOf 0) = 0 := by cases sign <;> rfl
  cases one with
  | infinity => exact absurd first (Nat.lt_irrefl _)
  | zero =>
    rw [none, Int.zero_add]
    cases two with
    | infinity => exact absurd second (Nat.lt_irrefl _)
    | zero =>
      rw [none, ofUnits, Int.natAbs_zero, nearestBits_zero, if_pos rfl, ← Sized.zero.pack]
      cases negative <;> cases other <;> rfl
    | finite canonical =>
      rw [unitsOf_canonical canonical, ofUnits_signed _ canonical.units_pos,
        nearestBits_canonical canonical, ← (Sized.finite canonical).pack]
      rfl
  | finite canonical =>
    cases two with
    | infinity => exact absurd second (Nat.lt_irrefl _)
    | zero =>
      rw [none, Int.add_zero, unitsOf_canonical canonical,
        ofUnits_signed _ canonical.units_pos, nearestBits_canonical canonical,
        ← (Sized.finite canonical).pack]
      rfl
    | finite another =>
      rw [unitsOf_canonical canonical, unitsOf_canonical another, canonical.add another]
      cases both : negative && other with
      | false => rfl
      | true =>
        obtain ⟨rfl, rfl⟩ := Bool.and_eq_true_iff.mp both
        have some := canonical.units_pos
        apply ofUnits_some
        simp only [signedSize, if_true]
        omega

theorem defined_of_finite (finite : x.isFinite = true) : x.isNaN = false := by
  rw [isFinite_iff] at finite
  rw [Bool.eq_false_iff, ne_eq, isNaN_iff]
  omega

theorem sized_finite (finite : x.isFinite = true) : Sized x.toModel.unpack (isNegative x) (size x) :=
  sized_unpack (defined_of_finite finite)

section Finite

variable (one : x.isFinite = true) (two : y.isFinite = true)
include one two

theorem add_nearest : x + y =
    ofUnits (signedSize (isNegative x) (unitsOf (size x)) + signedSize (isNegative y) (unitsOf (size y)))
      (isNegative x && isNegative y) :=
  (sized_finite one).add (sized_finite two) (isFinite_iff.mp one) (isFinite_iff.mp two)

theorem mul_nearest : x * y = ofSize (isNegative x ^^ isNegative y)
    (nearestBits (unitsOf (size x) * unitsOf (size y)) (unitsPerOne * unitsPerOne)) :=
  (sized_finite one).mul (sized_finite two) (isFinite_iff.mp one) (isFinite_iff.mp two)

theorem div_nearest (some : 0 < size y) : x / y = ofSize (isNegative x ^^ isNegative y)
    (nearestBits (unitsOf (size x)) (unitsOf (size y))) :=
  (sized_finite one).div (sized_finite two) (isFinite_iff.mp one) (isFinite_iff.mp two) some

end Finite

theorem defined_ofSize (negative : Bool) (bounded : k ≤ infinityBits) : (ofSize negative k).isNaN = false := by
  rw [Bool.eq_false_iff, ne_eq, isNaN_iff, size_ofSize negative bounded]
  omega

theorem signed_ofSize (negative : Bool) (bounded : k ≤ infinityBits) :
    signed (ofSize negative k) = signedSize negative k := by
  rw [signed, size_ofSize negative bounded, isNegative_ofSize negative bounded]

theorem signed_zero : signed 0.0 = 0 := by decide

theorem positive_iff (defined : x.isNaN = false) : 0.0 < x ↔ isNegative x = false ∧ 0 < size x := by
  rw [lt_iff_signed (by decide) defined, signed_zero, signed]
  cases isNegative x <;> simp [signedSize]

theorem nonnegative_iff (defined : x.isNaN = false) : 0.0 ≤ x ↔ 0 ≤ signed x := by
  rw [le_iff_signed (by decide) defined, signed_zero]

end BenchCharts.Number
