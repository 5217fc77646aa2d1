import BenchCharts.Proofs.Number.Monotone

namespace BenchCharts.Number

variable {num den m s k l : Nat} {x y : Float} {q : ℚ}

section Steps

theorem pow2_le {a b : Nat} (less : a ≤ b) : pow2 a ≤ pow2 b := Nat.pow_le_pow_right (by decide) less

theorem roundHalfEven_rounds (num : Nat) (positive : 0 < den) : RoundsTo num den (roundHalfEven num den) := by
  have split := Nat.div_add_mod' num den
  have rest := Nat.mod_lt num positive
  have next : (num / den + 1) * den = num / den * den + den := Nat.succ_mul _ _
  unfold roundHalfEven
  dsimp only
  split_ifs with low high
  · exact ⟨by omega, by omega, fun _ => ⟨by omega, by omega⟩⟩
  · exact ⟨by omega, by omega, fun _ => ⟨by omega, by omega⟩⟩
  · rcases Nat.mod_two_eq_zero_or_one (num / den) with even | odd
    · rw [even, Nat.add_zero]
      exact ⟨by omega, by omega, by omega⟩
    · rw [odd]
      exact ⟨by omega, by omega, by omega⟩

theorem nearestBits_scaled {c : Nat} (num : Nat) (divisor : 0 < den) (factor : 0 < c) :
    nearestBits (num * c) (den * c) = nearestBits num den := by
  have scaled := Nat.mul_pos divisor factor
  have same : num * c * den = num * (den * c) := by ring
  exact Nat.le_antisymm (nearestBits_mono scaled divisor same.le) (nearestBits_mono divisor scaled same.ge)

def distance (a b : Nat) : Nat := ((a : Int) - b).natAbs

-- No other multiple is closer, and none is as close to an odd one.
theorem RoundsTo.closest (rounds : RoundsTo num den m) (j : Nat) :
    distance (m * den) num ≤ distance (j * den) num ∧
      (distance (j * den) num = distance (m * den) num → j = m ∨ m % 2 = 0) := by
  obtain ⟨below, above, inner⟩ := rounds
  unfold distance
  rcases Nat.lt_trichotomy j m with less | rfl | more
  · have apart : (j + 1) * den ≤ m * den := Nat.mul_le_mul_right _ less
    rw [Nat.succ_mul] at apart
    omega
  · exact ⟨le_rfl, fun _ => .inl rfl⟩
  · have apart : (m + 1) * den ≤ j * den := Nat.mul_le_mul_right _ more
    rw [Nat.succ_mul] at apart
    omega

theorem unitsOf_rounded (most : m ≤ 2 ^ 53) (full : s = 0 ∨ 2 ^ 52 ≤ m) : unitsOf (s * pow2 52 + m) = m * 2 ^ s := by
  have bits : pow2 52 = 2 ^ 52 := rfl
  rw [bits, unitsOf]
  by_cases low : s * 2 ^ 52 + m < 2 ^ 52
  · have none : s = 0 := by omega
    rw [if_pos low]
    simp [none]
  · rw [if_neg low]
    rcases Nat.eq_or_lt_of_le most with rfl | less
    · have fraction : (s * 2 ^ 52 + 2 ^ 53) % 2 ^ 52 = 0 := by omega
      have exponent : (s * 2 ^ 52 + 2 ^ 53) / 2 ^ 52 - 1 = s + 1 := by omega
      rw [fraction, exponent]
      ring
    · have fraction : 2 ^ 52 + (s * 2 ^ 52 + m) % 2 ^ 52 = m := by omega
      have exponent : (s * 2 ^ 52 + m) / 2 ^ 52 - 1 = s := by omega
      rw [fraction, exponent]

-- A float counts whole steps of any size, or it lies below the numbers with all their bits in them.
theorem unitsOf_steps (l s : Nat) : (∃ j, unitsOf l = j * 2 ^ s) ∨ 0 < s ∧ unitsOf l < 2 ^ (52 + s) := by
  rcases Nat.eq_zero_or_pos s with rfl | shifted
  · exact .inl ⟨unitsOf l, by simp⟩
  unfold unitsOf
  split_ifs with low
  · refine .inr ⟨shifted, low.trans_le (Nat.pow_le_pow_right (by decide) (by omega))⟩
  · by_cases fine : s ≤ l / 2 ^ 52 - 1
    · left
      refine ⟨(2 ^ 52 + l % 2 ^ 52) * 2 ^ (l / 2 ^ 52 - 1 - s), ?_⟩
      rw [Nat.mul_assoc, Nat.pow_sub_mul_pow 2 fine]
    · refine .inr ⟨shifted, ?_⟩
      calc (2 ^ 52 + l % 2 ^ 52) * 2 ^ (l / 2 ^ 52 - 1) < 2 ^ 53 * 2 ^ (l / 2 ^ 52 - 1) :=
            Nat.mul_lt_mul_of_pos_right (by omega) (Nat.two_pow_pos _)
        _ = 2 ^ (53 + (l / 2 ^ 52 - 1)) := (Nat.pow_add 2 _ _).symm
        _ ≤ 2 ^ (52 + s) := Nat.pow_le_pow_right (by decide) (by omega)

-- Where a quotient is rounded: a number of steps, each of as many units as the shift says.
theorem exists_steps (divisor : 0 < den) (finite : nearestBits num den < infinityBits) : ∃ shift steps,
    (shift = 0 ∨ 2 ^ 52 * (den * 2 ^ shift) ≤ num * unitsPerOne) ∧
      RoundsTo (num * unitsPerOne) (den * 2 ^ shift) steps ∧
      nearestBits num den = shift * pow2 52 + steps ∧ unitsOf (nearestBits num den) = steps * 2 ^ shift := by
  obtain ⟨shift, shifts⟩ : ∃ shift, Shifts num den shift := exists_shifts divisor
  have bits : nearestBits num den =
      shift * pow2 52 + roundHalfEven (num * unitsPerOne) (den * pow2 shift) := by
    rw [shifts.nearestBits divisor] at finite ⊢
    omega
  have full : shift = 0 ∨ 2 ^ 52 * (den * 2 ^ shift) ≤ num * unitsPerOne := by
    refine shifts.full.imp_right fun full => ?_
    calc 2 ^ 52 * (den * 2 ^ shift) = 2 ^ (52 + shift) * den := by ring
      _ ≤ num * unitsPerOne := full
  refine ⟨shift, _, full, roundHalfEven_rounds _ (Nat.mul_pos divisor (pow2_pos shift)), bits, ?_⟩
  rw [bits]
  exact unitsOf_rounded (shifts.rounded_le divisor) ((Nat.eq_zero_or_pos shift).imp_right (shifts.le_rounded divisor))

theorem nearestBits_closest (divisor : 0 < den) (finite : nearestBits num den < infinityBits) (l : Nat) :
    distance (unitsOf (nearestBits num den) * den) (num * unitsPerOne) ≤ distance (unitsOf l * den) (num * unitsPerOne) ∧
      (distance (unitsOf l * den) (num * unitsPerOne) = distance (unitsOf (nearestBits num den) * den) (num * unitsPerOne) →
        unitsOf l = unitsOf (nearestBits num den) ∨ nearestBits num den % 2 = 0) := by
  obtain ⟨shift, steps, full, rounds, bits, units⟩ := exists_steps divisor finite
  have even : steps % 2 = 0 → nearestBits num den % 2 = 0 := by
    intro even
    rw [bits, pow2, Nat.pow_eq]
    omega
  generalize num * unitsPerOne = total at *
  have moved (j : Nat) : j * 2 ^ shift * den = j * (den * 2 ^ shift) := by ring
  rw [units, moved]
  rcases unitsOf_steps l shift with ⟨j, same⟩ | ⟨shifted, low⟩
  · obtain ⟨closer, tie⟩ := rounds.closest j
    rw [same, moved]
    refine ⟨closer, fun equal => (tie equal).imp (fun here => ?_) even⟩
    rw [here]
  · have filled := full.resolve_left shifted.ne'
    have below : unitsOf l * den < 2 ^ 52 * (den * 2 ^ shift) := by
      calc unitsOf l * den < 2 ^ (52 + shift) * den := Nat.mul_lt_mul_of_pos_right low divisor
        _ = 2 ^ 52 * (den * 2 ^ shift) := by ring
    have closer := (rounds.closest (2 ^ 52)).1
    unfold distance at *
    omega

theorem nearestBits_error (divisor : 0 < den) (finite : nearestBits num den < infinityBits)
    (large : 2 ^ 52 * den ≤ num * unitsPerOne) :
    2 ^ 53 * distance (unitsOf (nearestBits num den) * den) (num * unitsPerOne) ≤ num * unitsPerOne := by
  obtain ⟨shift, steps, full, ⟨below, above, _⟩, _, units⟩ := exists_steps divisor finite
  generalize num * unitsPerOne = total at *
  have moved : steps * 2 ^ shift * den = steps * (den * 2 ^ shift) := by ring
  have filled : 2 ^ 52 * (den * 2 ^ shift) ≤ total := by
    rcases full with rfl | full
    · rwa [Nat.pow_zero, Nat.mul_one]
    · exact full
  rw [units, moved]
  unfold distance
  omega

theorem nearestBits_finite {e : Nat} (divisor : 0 < den) (low : e ≤ 1023) (small : num < 2 ^ e * den) :
    nearestBits num den < infinityBits := by
  obtain ⟨shift, shifts⟩ : ∃ shift, Shifts num den shift := exists_shifts divisor
  have most := shifts.rounded_le divisor
  have bounded : shift ≤ 2044 := by
    by_contra high
    have crossed : num * unitsPerOne < num * unitsPerOne := by
      calc num * unitsPerOne < 2 ^ e * den * unitsPerOne := Nat.mul_lt_mul_of_pos_right small (pow2_pos _)
        _ = 2 ^ (e + 1074) * den := by rw [Nat.mul_right_comm, units_pow]
        _ ≤ 2 ^ (52 + shift) * den := Nat.mul_le_mul_right _ (Nat.pow_le_pow_right (by decide) (by omega))
        _ ≤ num * unitsPerOne := shifts.full.resolve_left (by omega)
    exact Nat.lt_irrefl _ crossed
  rw [shifts.nearestBits divisor]
  simp only [infinityBits, pow2, Nat.pow_eq] at most ⊢
  omega

end Steps

-- The finite float closest to a rational; of two that are as close it is the one with an even significand.
structure Nearest (x : Float) (q : ℚ) : Prop where
  finite : x.isFinite = true
  closest : ∀ y : Float, y.isFinite = true → |value x - q| ≤ |value y - q|
  even : ∀ y : Float, y.isFinite = true → |value y - q| = |value x - q| → value y = value x ∨ size x % 2 = 0

theorem abs_value (x : Float) : |value x| = unitsOf (size x) / unitsPerOne := abs_signed _ _ _

theorem Rounds.size (rounds : Rounds x q) : Number.size x = nearestBits q.num.natAbs q.den := by
  have same := congrArg Int.natAbs rounds.near
  have sizes (negative : Bool) (n : Nat) : (signedSize negative n).natAbs = n := by cases negative <;> simp [signedSize]
  rwa [signed, rounded, sizes, sizes] at same

theorem Rounds.none (rounds : Rounds x 0) : Number.size x = 0 := by
  rw [rounds.size]
  simp [nearestBits_zero]

theorem rounds_zero (rounds : Rounds x 0) : x.isFinite = true ∧ value x = 0 := by
  have units : unitsOf 0 = 0 := rfl
  refine ⟨isFinite_iff.mpr (by rw [rounds.none]; decide), ?_⟩
  rw [← abs_eq_zero, abs_value, rounds.none, units, Nat.cast_zero, zero_div]

-- Rounding does not lead past zero.
theorem Rounds.sides (rounds : Rounds x q) (finite : x.isFinite = true) :
    0 ≤ value x ∧ 0 ≤ q ∨ value x ≤ 0 ∧ q ≤ 0 := by
  have zero : (0.0 : Float).isFinite = true := by decide
  have origin : Rounds 0.0 0 := value_zero ▸ rounds_value zero
  rcases le_total 0 q with more | less
  · exact .inl ⟨value_nonneg finite (origin.mono rounds more), more⟩
  · have low := (value_le_iff finite zero).mpr (rounds.mono origin less)
    exact .inr ⟨value_zero ▸ low, less⟩

theorem abs_apart {a b : ℚ} (sides : 0 ≤ a ∧ 0 ≤ b ∨ a ≤ 0 ∧ b ≤ 0) : |a - b| = |(|a| - |b|)| := by
  rcases sides with ⟨first, second⟩ | ⟨first, second⟩
  · rw [abs_of_nonneg first, abs_of_nonneg second]
  · rw [abs_of_nonpos first, abs_of_nonpos second, neg_sub_neg, abs_sub_comm]

theorem distance_ratio (u : Nat) (divisor : 0 < den) : |(u : ℚ) / unitsPerOne - num / den| =
    distance (u * den) (num * unitsPerOne) / (den * unitsPerOne) := by
  have one := unitsPerOne_pos
  have two : (0 : ℚ) < den := Nat.cast_pos.mpr divisor
  rw [div_sub_div _ _ one.ne' two.ne', abs_div, abs_of_pos (mul_pos one two), distance, Nat.cast_natAbs, mul_comm (den : ℚ)]
  push_cast
  rw [mul_comm (unitsPerOne : ℚ) num]

theorem magnitude_apart (x : Float) (q : ℚ) : |(|value x| - |q|)| =
    distance (unitsOf (size x) * q.den) (q.num.natAbs * unitsPerOne) / (q.den * unitsPerOne) := by
  rw [abs_value, ← natAbs_ratio q, distance_ratio _ q.den_pos]

theorem Rounds.nearest (rounds : Rounds x q) (finite : x.isFinite = true) : Nearest x q := by
  have bounded := isFinite_iff.mp finite
  rw [rounds.size] at bounded
  have weight : (0 : ℚ) < q.den * unitsPerOne := mul_pos (Nat.cast_pos.mpr q.den_pos) unitsPerOne_pos
  have sides := rounds.sides finite
  have here : |value x - q| = |(|value x| - |q|)| := abs_apart sides
  have closer (y : Float) := nearestBits_closest q.den_pos bounded (Number.size y)
  simp only [← rounds.size] at closer
  have among (y : Float) : |(|value x| - |q|)| ≤ |(|value y| - |q|)| := by
    rw [magnitude_apart, magnitude_apart]
    exact div_le_div_of_nonneg_right (Nat.cast_le.mpr (closer y).1) weight.le
  refine ⟨finite, ?_, ?_⟩
  · intro y _
    rw [here]
    exact (among y).trans (abs_abs_sub_abs_le _ _)
  · intro y _ tie
    have level : |(|value y| - |q|)| = |(|value x| - |q|)| := by
      apply le_antisymm _ (among y)
      rw [← here, ← tie]
      exact abs_abs_sub_abs_le _ _
    rw [magnitude_apart, magnitude_apart, div_left_inj' weight.ne', Nat.cast_inj] at level
    refine ((closer y).2 level).elim (fun same => ?_) .inr
    have sized : |value y| = |value x| := by rw [abs_value, abs_value, same]
    rcases abs_eq_abs.mp sized with equal | opposite
    · exact .inl equal
    · -- The opposite of the rounded float is as close only where one of them is zero.
      rw [opposite] at tie
      have product : value x * q = 0 := by
        have squares := congrArg (· ^ 2) tie
        simp only [sq_abs] at squares
        linarith
      rcases mul_eq_zero.mp product with none | none
      · left
        rw [opposite, none, neg_zero]
      · right
        rw [(none ▸ rounds : Rounds x 0).none]

theorem Rounds.error {e : Nat} (rounds : Rounds x q) (finite : x.isFinite = true) (normal : e ≤ 1022)
    (large : 1 / 2 ^ e ≤ |q|) : |value x - q| ≤ |q| / 2 ^ 53 := by
  have bounded := isFinite_iff.mp finite
  have divisor : (0 : ℚ) < q.den := Nat.cast_pos.mpr q.den_pos
  rw [rounds.size] at bounded
  have units : 2 ^ 52 * q.den ≤ q.num.natAbs * unitsPerOne := by
    rw [← natAbs_ratio, div_le_div_iff₀ (pow_pos two_pos e) divisor, one_mul] at large
    have least : q.den ≤ q.num.natAbs * 2 ^ e := by exact_mod_cast large
    calc 2 ^ 52 * q.den ≤ 2 ^ 52 * (q.num.natAbs * 2 ^ e) := Nat.mul_le_mul_left _ least
      _ = q.num.natAbs * pow2 (e + 52) := by rw [pow2_add, pow2, pow2, Nat.pow_eq, Nat.pow_eq]; ring
      _ ≤ q.num.natAbs * unitsPerOne := Nat.mul_le_mul_left _ (pow2_le (Nat.add_le_add_right normal 52))
  have error : (2 ^ 53 * distance (unitsOf (Number.size x) * q.den) (q.num.natAbs * unitsPerOne) : ℚ) ≤
      q.num.natAbs * unitsPerOne := by
    rw [rounds.size]
    exact_mod_cast nearestBits_error q.den_pos bounded units
  rw [abs_apart (rounds.sides finite), magnitude_apart, ← natAbs_ratio q, div_div,
    div_le_div_iff₀ (mul_pos divisor unitsPerOne_pos) (by positivity)]
  calc (distance (unitsOf (Number.size x) * q.den) (q.num.natAbs * unitsPerOne) : ℚ) * (q.den * 2 ^ 53)
    _ = 2 ^ 53 * distance (unitsOf (Number.size x) * q.den) (q.num.natAbs * unitsPerOne) * q.den := by ring
    _ ≤ q.num.natAbs * unitsPerOne * q.den := mul_le_mul_of_nonneg_right error divisor.le
    _ = q.num.natAbs * (q.den * unitsPerOne) := by ring

theorem Rounds.finite {e : Nat} (rounds : Rounds x q) (low : e ≤ 1023) (small : |q| < 2 ^ e) : x.isFinite = true := by
  rw [isFinite_iff, rounds.size]
  apply nearestBits_finite q.den_pos low
  rw [← natAbs_ratio, div_lt_iff₀ (Nat.cast_pos.mpr q.den_pos)] at small
  exact_mod_cast small

end BenchCharts.Number
