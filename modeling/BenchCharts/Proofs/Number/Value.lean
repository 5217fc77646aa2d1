import BenchCharts.Proofs.Number.Bounds

namespace BenchCharts.Number
open Float.Model Float.Model.UnpackedFloat

variable {x y z : Float} {q r : ℚ} {a b c d k : Nat} {negative other : Bool} {f g : UnpackedFloat}

-- What a finite float stands for.
def value (x : Float) : ℚ := signedSize (isNegative x) (unitsOf (size x)) / unitsPerOne

-- Size and sign of the float nearest to a rational.
def rounded (q : ℚ) : Int := signedSize (decide (q < 0)) (nearestBits q.num.natAbs q.den)

theorem unitsPerOne_pos : (0 : ℚ) < unitsPerOne := Nat.cast_pos.mpr (pow2_pos _)

theorem nearestBits_ratio_mono (first : 0 < b) (second : 0 < d) (less : (a : ℚ) / b ≤ c / d) :
    nearestBits a b ≤ nearestBits c d := by
  rw [div_le_div_iff₀ (Nat.cast_pos.mpr first) (Nat.cast_pos.mpr second)] at less
  exact nearestBits_mono first second (by exact_mod_cast less)

theorem natAbs_ratio (q : ℚ) : (q.num.natAbs : ℚ) / q.den = |q| := by
  rw [Nat.cast_natAbs, Int.cast_abs, ← Nat.abs_cast q.den, ← abs_div, Rat.num_div_den]

theorem abs_signed (negative : Bool) (n d : Nat) : |(signedSize negative n : ℚ) / d| = n / d := by
  rw [abs_div, Nat.abs_cast]
  cases negative <;> simp [signedSize]

-- However a rational is written, it is rounded by its value.
theorem rounded_signed (negative : Bool) (n : Nat) (positive : 0 < d) :
    rounded ((signedSize negative n : ℚ) / d) = signedSize negative (nearestBits n d) := by
  have size : nearestBits ((signedSize negative n : ℚ) / d).num.natAbs ((signedSize negative n : ℚ) / d).den =
      nearestBits n d := by
    have same := (natAbs_ratio ((signedSize negative n : ℚ) / d)).trans (abs_signed negative n d)
    exact Nat.le_antisymm (nearestBits_ratio_mono (Rat.den_pos _) positive same.le)
      (nearestBits_ratio_mono positive (Rat.den_pos _) same.ge)
  have divisor : (0 : ℚ) < d := Nat.cast_pos.mpr positive
  rw [rounded, size]
  rcases Nat.eq_zero_or_pos n with rfl | some
  · simp [nearestBits_zero, signedSize]
  · cases negative with
    | false =>
      have more : 0 ≤ (signedSize false n : ℚ) / d := div_nonneg (by simp [signedSize]) divisor.le
      rw [decide_eq_false (not_lt.mpr more)]
    | true =>
      have less : (signedSize true n : ℚ) / d < 0 := div_neg_of_neg_of_pos (by simp [signedSize, some]) divisor
      rw [decide_eq_true less]

theorem rounded_mono (less : q ≤ r) : rounded q ≤ rounded r := by
  have first := q.den_pos
  have second := r.den_pos
  have sizes {p s : ℚ} (more : |p| ≤ |s|) : nearestBits p.num.natAbs p.den ≤ nearestBits s.num.natAbs s.den := by
    rw [← natAbs_ratio p, ← natAbs_ratio s] at more
    exact nearestBits_ratio_mono p.den_pos s.den_pos more
  unfold rounded
  by_cases below : r < 0
  · have both : q < 0 := less.trans_lt below
    have sized := sizes (abs_le_abs_of_nonpos below.le less)
    simp only [both, below, decide_true, signedSize, if_true]
    omega
  · by_cases low : q < 0
    · simp only [low, below, signedSize, decide_true, decide_false, if_true, Bool.false_eq_true, if_false]
      omega
    · have sized := sizes (abs_le_abs_of_nonneg (not_lt.mp low) less)
      simpa [low, below, signedSize] using sized

-- A float that a rational is rounded to.
structure Rounds (x : Float) (q : ℚ) : Prop where
  defined : x.isNaN = false
  near : signed x = rounded q

theorem Rounds.mono (one : Rounds x q) (two : Rounds y r) (less : q ≤ r) : x ≤ y := by
  rw [le_exact, one.near, two.near]
  exact ⟨one.defined, two.defined, rounded_mono less⟩

theorem rounds_signed (negative : Bool) (n : Nat) (positive : 0 < d) :
    Rounds (ofSize negative (nearestBits n d)) ((signedSize negative n : ℚ) / d) where
  defined := defined_ofSize negative (nearestBits_le n d)
  near := by rw [signed_ofSize negative (nearestBits_le n d), rounded_signed negative n positive]

theorem rounds_value (finite : x.isFinite = true) : Rounds x (value x) where
  defined := defined_of_finite finite
  near := by
    have positive : 0 < unitsPerOne := pow2_pos _
    rw [value, rounded_signed _ _ positive, nearestBits_unitsOf (isFinite_iff.mp finite), signed]

-- Both zeros have one value, so the size with the sign tells it.
theorem value_signed (x : Float) : value x = (signed x).sign * unitsOf (signed x).natAbs / unitsPerOne := by
  have none : unitsOf 0 = 0 := rfl
  have units : signedSize (isNegative x) (unitsOf (size x)) = (signed x).sign * unitsOf (signed x).natAbs := by
    unfold signed signedSize
    rcases Nat.eq_zero_or_pos (size x) with zero | some
    · simp [zero, none]
    · cases isNegative x <;> simp [Int.sign_eq_one_of_pos, some]
  rw [value, units]
  push_cast
  rfl

theorem value_le_iff (one : x.isFinite = true) (two : y.isFinite = true) : value x ≤ value y ↔ x ≤ y := by
  refine ⟨(rounds_value one).mono (rounds_value two), ?_⟩
  intro less
  rw [le_exact, (rounds_value one).near, (rounds_value two).near] at less
  by_contra more
  have same : signed x = signed y := by
    rw [(rounds_value one).near, (rounds_value two).near]
    exact le_antisymm less.2.2 (rounded_mono (not_le.mp more).le)
  rw [value_signed, value_signed, same] at more
  exact more le_rfl

theorem value_zero : value 0.0 = 0 := by
  rw [value_signed, signed_zero, Int.sign_zero, Int.cast_zero, zero_mul, zero_div]

theorem signed_natAbs (total : Int) (negative : Bool) :
    signedSize (if total = 0 then negative else decide (total < 0)) total.natAbs = total := by
  unfold signedSize
  grind

theorem rounds_ofUnits (total : Int) (negative : Bool) : Rounds (ofUnits total negative) (total / unitsPerOne) := by
  have positive : 0 < unitsPerOne := pow2_pos _
  have near := rounds_signed (if total = 0 then negative else decide (total < 0)) total.natAbs positive
  rwa [signed_natAbs] at near

theorem signedSize_mul (n m : Nat) :
    signedSize negative n * signedSize other m = signedSize (negative ^^ other) (n * m) := by
  cases negative <;> cases other <;> simp [signedSize]

theorem signedSize_div (n m : Nat) :
    (signedSize negative n : ℚ) / signedSize other m = signedSize (negative ^^ other) n / m := by
  cases negative <;> cases other <;> simp [signedSize, neg_div, div_neg]

theorem signedSize_not (n : Nat) : signedSize (!negative) n = -signedSize negative n := by
  cases negative <;> simp [signedSize]

theorem unpacked_sub (spec : Format) (f g : UnpackedFloat) : f.sub spec g = f.add spec g.neg := by
  have opposite (s : Sign) (m : Int) : (-s).apply m = -s.apply m := by
    cases s
    · exact (Int.neg_neg m).symm
    · rfl
  cases f <;> cases g <;> simp [UnpackedFloat.sub, UnpackedFloat.add, UnpackedFloat.neg, opposite, Int.sub_eq_add_neg]

theorem Sized.neg (sized : Sized f negative k) : Sized f.neg (!negative) k := by
  have opposite : -signOf negative = signOf (!negative) := by cases negative <;> rfl
  cases sized with
  | zero =>
    rw [UnpackedFloat.neg, opposite]
    exact .zero
  | finite canonical =>
    rw [UnpackedFloat.neg, opposite]
    exact .finite canonical
  | infinity =>
    rw [UnpackedFloat.neg, opposite]
    exact .infinity

section Finite

variable (one : x.isFinite = true) (two : y.isFinite = true)
include one two

theorem add_rounds : Rounds (x + y) (value x + value y) := by
  rw [add_nearest one two, value, value, ← add_div]
  exact_mod_cast rounds_ofUnits _ _

theorem sub_rounds : Rounds (x - y) (value x - value y) := by
  have difference : x - y = ofUnits (signedSize (isNegative x) (unitsOf (size x)) +
      signedSize (!isNegative y) (unitsOf (size y))) (isNegative x && !isNegative y) := by
    change Float.ofModel (.pack (.sub .binary64 _ _)) = _
    rw [unpacked_sub]
    exact (sized_finite one).add (sized_finite two).neg (isFinite_iff.mp one) (isFinite_iff.mp two)
  rw [difference, value, value, ← sub_div, signedSize_not, ← Int.sub_eq_add_neg]
  exact_mod_cast rounds_ofUnits _ _

theorem mul_rounds : Rounds (x * y) (value x * value y) := by
  have product : value x * value y = (signedSize (isNegative x ^^ isNegative y) (unitsOf (size x) * unitsOf (size y)) : ℚ) /
      (unitsPerOne * unitsPerOne : Nat) := by
    rw [value, value, div_mul_div_comm, ← signedSize_mul]
    push_cast
    rfl
  rw [mul_nearest one two, product]
  exact rounds_signed _ _ (Nat.mul_pos (pow2_pos _) (pow2_pos _))

theorem div_rounds (some : 0 < unitsOf (size y)) : Rounds (x / y) (value x / value y) := by
  have quotient : value x / value y =
      (signedSize (isNegative x ^^ isNegative y) (unitsOf (size x)) : ℚ) / (unitsOf (size y) : Nat) := by
    rw [value, value, div_div_div_cancel_right₀ unitsPerOne_pos.ne', signedSize_div]
  have divisor : 0 < size y := by
    rw [Nat.pos_iff_ne_zero]
    intro none
    rw [none] at some
    exact absurd some (by decide)
  rw [div_nearest one two divisor, quotient]
  exact rounds_signed _ _ some

end Finite

theorem Positive.value_pos (positive : Positive x) : 0 < value x := by
  rw [value, positive.sign]
  exact div_pos (Int.cast_pos.mpr (Int.natCast_pos.mpr positive.units)) unitsPerOne_pos

theorem exact_units (finite : x.isFinite = true) :
    ∃ m s, exact x = .finite (isNegative x) m s ∧ m * pow2 s = unitsOf (size x) := by
  rw [isFinite_iff, size] at finite
  unfold exact Exact.ofBits isNegative unitsOf size
  dsimp only
  generalize x.toBits.toNat = bits at *
  have exponent : bits % pow2 63 / 2 ^ 52 = bits / pow2 52 % pow2 11 := by
    simp only [pow2, Nat.pow_eq]
    omega
  have fraction : bits % pow2 63 % 2 ^ 52 = bits % pow2 52 := by
    simp only [pow2, Nat.pow_eq]
    omega
  have low : bits / pow2 52 % pow2 11 ≠ 2047 := by
    simp only [infinityBits, pow2, Nat.pow_eq] at finite ⊢
    omega
  rw [if_neg low, exponent, fraction]
  by_cases none : bits / pow2 52 % pow2 11 = 0
  · have small : bits % pow2 63 < 2 ^ 52 := by omega
    have whole : bits % pow2 63 = bits % pow2 52 := by omega
    rw [if_pos none, if_pos small, whole]
    exact ⟨_, _, rfl, Nat.mul_one _⟩
  · have large : ¬bits % pow2 63 < 2 ^ 52 := by omega
    rw [if_neg none, if_neg large]
    exact ⟨_, _, rfl, rfl⟩

end BenchCharts.Number
