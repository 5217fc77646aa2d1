import BenchCharts.Proofs.Number.Size

namespace BenchCharts.Number

variable {num den a b c d m s : Nat}

theorem div_le_cross (first : 0 < b) (second : 0 < d) (less : a * d ≤ c * b) : a / b ≤ c / d := by
  rw [Nat.le_div_iff_mul_le second]
  apply Nat.le_of_mul_le_mul_right _ first
  calc a / b * d * b = a / b * b * d := Nat.mul_right_comm _ _ _
    _ ≤ a * d := Nat.mul_le_mul_right d (Nat.div_mul_le_self a b)
    _ ≤ c * b := less

theorem roundHalfEven_bounds (num den : Nat) :
    num / den ≤ roundHalfEven num den ∧ roundHalfEven num den ≤ num / den + 1 := by
  unfold roundHalfEven
  dsimp only
  split
  · omega
  · split <;> omega

-- Between whole numbers the remainders decide: below, at or above half a step.
theorem roundHalfEven_mono (first : 0 < b) (second : 0 < d) (less : a * d ≤ c * b) :
    roundHalfEven a b ≤ roundHalfEven c d := by
  have upper := (roundHalfEven_bounds a b).2
  have lower := (roundHalfEven_bounds c d).1
  rcases Nat.eq_or_lt_of_le (div_le_cross first second less) with same | smaller
  · have rests : a % b * d ≤ c % d * b := by
      have left : a * d = a / b * (b * d) + a % b * d := by
        nth_rewrite 1 [← Nat.div_add_mod a b]
        ring
      have right : c * b = c / d * (b * d) + c % d * b := by
        nth_rewrite 1 [← Nat.div_add_mod c d]
        ring
      rw [left, right, same] at less
      exact Nat.le_of_add_le_add_left less
    have half : b ≤ 2 * (a % b) → d ≤ 2 * (c % d) := by
      intro high
      apply Nat.le_of_mul_le_mul_right _ first
      nlinarith
    have more : b < 2 * (a % b) → d < 2 * (c % d) := by
      intro high
      apply Nat.lt_of_mul_lt_mul_right (a := b)
      nlinarith
    unfold roundHalfEven
    dsimp only
    rw [same]
    split_ifs <;> omega
  · exact upper.trans (Nat.succ_le_of_lt smaller |>.trans lower)

theorem roundHalfEven_cross (first : 0 < b) (second : 0 < d) (same : a * d = c * b) :
    roundHalfEven a b = roundHalfEven c d :=
  Nat.le_antisymm (roundHalfEven_mono first second same.le) (roundHalfEven_mono second first same.ge)

-- The shift that leaves at most fifty-three bits of a quotient, and all of these if it is not zero.
structure Shifts (num den shift : Nat) : Prop where
  full : shift = 0 ∨ 2 ^ (52 + shift) * den ≤ num * unitsPerOne
  bounded : num * unitsPerOne < 2 ^ (53 + shift) * den

theorem exists_shifts (divisor : 0 < den) : ∃ shift, Shifts num den shift := by
  have low := Nat.log2_self_le (n := num * unitsPerOne / den)
  have high := Nat.lt_log2_self (n := num * unitsPerOne / den)
  refine ⟨(num * unitsPerOne / den).log2 - 52, ?_, ?_⟩
  · by_cases small : (num * unitsPerOne / den).log2 ≤ 52
    · exact .inl (Nat.sub_eq_zero_of_le small)
    · right
      have some : num * unitsPerOne / den ≠ 0 := by
        intro none
        simp [none] at small
      rw [← Nat.le_div_iff_mul_le divisor, Nat.add_sub_cancel' (by omega)]
      exact low some
  · rw [← Nat.div_lt_iff_lt_mul divisor]
    exact high.trans_le (Nat.pow_le_pow_right (by decide) (by omega))

theorem Shifts.nearestBits {shift : Nat} (shifts : Shifts num den shift) (divisor : 0 < den) :
    Number.nearestBits num den =
      min infinityBits (shift * pow2 52 + roundHalfEven (num * unitsPerOne) (den * pow2 shift)) := by
  have same : (num * unitsPerOne / den).log2 - 52 = shift := by
    apply shift_eq
    · rw [Nat.le_div_iff_mul_le divisor]
      exact shifts.full
    · rw [Nat.div_lt_iff_lt_mul divisor]
      exact shifts.bounded
  unfold Number.nearestBits
  dsimp only
  rw [same]

theorem Shifts.rounded_le {shift : Nat} (shifts : Shifts num den shift) (divisor : 0 < den) :
    roundHalfEven (num * unitsPerOne) (den * pow2 shift) ≤ 2 ^ 53 := by
  refine (roundHalfEven_bounds _ _).2.trans (Nat.succ_le_of_lt ?_)
  rw [Nat.div_lt_iff_lt_mul (Nat.mul_pos divisor (pow2_pos shift))]
  calc num * unitsPerOne < 2 ^ (53 + shift) * den := shifts.bounded
    _ = 2 ^ 53 * (den * pow2 shift) := by rw [Nat.pow_add, pow2, Nat.pow_eq]; ring

theorem Shifts.le_rounded {shift : Nat} (shifts : Shifts num den shift) (divisor : 0 < den) (some : 0 < shift) :
    2 ^ 52 ≤ roundHalfEven (num * unitsPerOne) (den * pow2 shift) := by
  refine Nat.le_trans ?_ (roundHalfEven_bounds _ _).1
  rw [Nat.le_div_iff_mul_le (Nat.mul_pos divisor (pow2_pos shift))]
  calc 2 ^ 52 * (den * pow2 shift) = 2 ^ (52 + shift) * den := by rw [Nat.pow_add, pow2, Nat.pow_eq]; ring
    _ ≤ num * unitsPerOne := shifts.full.resolve_left some.ne'

theorem Shifts.mono {one two : Nat} (left : Shifts a b one) (right : Shifts c d two) (divisor : 0 < b)
    (less : a * d ≤ c * b) : one ≤ two := by
  by_contra more
  have full := left.full.resolve_left (by omega)
  have crossed : a * unitsPerOne * d < a * unitsPerOne * d := by
    calc a * unitsPerOne * d = a * d * unitsPerOne := Nat.mul_right_comm _ _ _
      _ ≤ c * b * unitsPerOne := Nat.mul_le_mul_right _ less
      _ = c * unitsPerOne * b := Nat.mul_right_comm _ _ _
      _ < 2 ^ (53 + two) * d * b := Nat.mul_lt_mul_of_pos_right right.bounded divisor
      _ ≤ 2 ^ (52 + one) * d * b :=
        Nat.mul_le_mul_right _ (Nat.mul_le_mul_right _ (Nat.pow_le_pow_right (by decide) (by omega)))
      _ = 2 ^ (52 + one) * b * d := Nat.mul_right_comm _ _ _
      _ ≤ a * unitsPerOne * d := Nat.mul_le_mul_right _ full
  exact Nat.lt_irrefl _ crossed

-- A larger shift starts where a smaller one ends, so only one shift needs a closer look.
theorem nearestBits_mono (first : 0 < b) (second : 0 < d) (less : a * d ≤ c * b) :
    nearestBits a b ≤ nearestBits c d := by
  obtain ⟨one, left⟩ : ∃ shift, Shifts a b shift := exists_shifts first
  obtain ⟨two, right⟩ : ∃ shift, Shifts c d shift := exists_shifts second
  rw [left.nearestBits first, right.nearestBits second]
  refine Nat.le_min.mpr ⟨Nat.min_le_left _ _, (Nat.min_le_right _ _).trans ?_⟩
  rcases Nat.eq_or_lt_of_le (left.mono right first less) with rfl | smaller
  · apply Nat.add_le_add_left
    apply roundHalfEven_mono (Nat.mul_pos first (pow2_pos one)) (Nat.mul_pos second (pow2_pos one))
    calc a * unitsPerOne * (d * pow2 one) = a * d * (unitsPerOne * pow2 one) := by ring
      _ ≤ c * b * (unitsPerOne * pow2 one) := Nat.mul_le_mul_right _ less
      _ = c * unitsPerOne * (b * pow2 one) := by ring
  · have upper := left.rounded_le first
    have lower := right.le_rounded second (by omega)
    have step : (one + 1) * pow2 52 ≤ two * pow2 52 := Nat.mul_le_mul_right _ smaller
    simp only [pow2, Nat.pow_eq] at *
    omega

def unitsOf (size : Nat) : Nat := if size < 2 ^ 52 then size else (2 ^ 52 + size % 2 ^ 52) * 2 ^ (size / 2 ^ 52 - 1)

theorem unitsOf_canonical (canonical : Canonical m s) : unitsOf (s * pow2 52 + m) = m * 2 ^ s := by
  obtain ⟨_, significand, _, full⟩ := canonical
  have bits : pow2 52 = 2 ^ 52 := rfl
  rw [bits, unitsOf]
  by_cases low : s * 2 ^ 52 + m < 2 ^ 52
  · have none : s = 0 := by omega
    rw [if_pos low]
    simp [none]
  · have fraction : 2 ^ 52 + (s * 2 ^ 52 + m) % 2 ^ 52 = m := by omega
    have exponent : (s * 2 ^ 52 + m) / 2 ^ 52 - 1 = s := by omega
    rw [if_neg low, fraction, exponent]

theorem roundHalfEven_exact (m : Nat) (positive : 0 < d) : roundHalfEven (m * d) d = m := by
  simp [roundHalfEven, Nat.mul_div_cancel m positive, positive]

theorem nearestBits_canonical (canonical : Canonical m s) :
    nearestBits (m * 2 ^ s) unitsPerOne = s * pow2 52 + m := by
  have positive : 0 < unitsPerOne := pow2_pos _
  have shifts : Shifts (m * 2 ^ s) unitsPerOne s := by
    refine ⟨canonical.full.imp_right fun full => ?_, ?_⟩
    · rw [Nat.pow_add]
      exact Nat.mul_le_mul_right _ (Nat.mul_le_mul_right _ full)
    · rw [Nat.pow_add]
      exact Nat.mul_lt_mul_of_pos_right (Nat.mul_lt_mul_of_pos_right canonical.significand (Nat.two_pow_pos s)) positive
  have scaled : m * 2 ^ s * unitsPerOne = m * (unitsPerOne * pow2 s) := by rw [pow2, Nat.pow_eq]; ring
  rw [shifts.nearestBits positive, scaled, roundHalfEven_exact m (Nat.mul_pos positive (pow2_pos s))]
  exact Nat.min_eq_right canonical.size_lt.le

theorem nearestBits_zero (den : Nat) : nearestBits 0 den = 0 := by
  simp [nearestBits, roundHalfEven]

theorem nearestBits_le (num den : Nat) : nearestBits num den ≤ infinityBits := Nat.min_le_left _ _

-- A finite float is rounded to itself.
theorem nearestBits_unitsOf {k : Nat} (finite : k < infinityBits) : nearestBits (unitsOf k) unitsPerOne = k := by
  obtain ⟨f, sized⟩ := exists_sized false finite.le
  cases sized with
  | zero => exact nearestBits_zero _
  | finite canonical => rw [unitsOf_canonical canonical, nearestBits_canonical canonical]
  | infinity => exact absurd finite (Nat.lt_irrefl _)

theorem unitsOf_le {k l : Nat} (less : k ≤ l) (finite : l < infinityBits) : unitsOf k ≤ unitsOf l := by
  by_contra more
  have rounded : nearestBits (unitsOf l) unitsPerOne ≤ nearestBits (unitsOf k) unitsPerOne :=
    nearestBits_mono (pow2_pos _) (pow2_pos _) (Nat.mul_le_mul_right _ (by omega))
  rw [nearestBits_unitsOf finite, nearestBits_unitsOf (less.trans_lt finite)] at rounded
  exact more (Nat.le_antisymm less rounded ▸ Nat.le_refl _)

end BenchCharts.Number
