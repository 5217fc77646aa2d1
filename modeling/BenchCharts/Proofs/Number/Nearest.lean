import BenchCharts.Number.Decimal
import Mathlib.Tactic.Ring

namespace BenchCharts.Number

variable {num den m s : Nat}

-- The quotient is at most half a step from `m`, and less than that where `m` is odd.
structure RoundsTo (num den m : Nat) : Prop where
  below : 2 * (m * den) ≤ 2 * num + den
  above : 2 * num ≤ 2 * (m * den) + den
  inner : m % 2 = 1 → 2 * (m * den) < 2 * num + den ∧ 2 * num < 2 * (m * den) + den

theorem roundHalfEven_eq (positive : 0 < den) (rounds : RoundsTo num den m) :
    roundHalfEven num den = m := by
  obtain ⟨below, above, inner⟩ := rounds
  have split := Nat.div_add_mod num den
  have rest := Nat.mod_lt num positive
  have upper : num / den < m + 1 := by
    rw [Nat.div_lt_iff_lt_mul positive, Nat.succ_mul]
    omega
  have lower : m ≤ num / den + 1 := by
    rw [← Nat.add_div_right _ positive, Nat.le_div_iff_mul_le positive]
    omega
  unfold roundHalfEven
  dsimp only
  rcases Nat.lt_or_ge (num / den) m with less | equal
  · have next : m = num / den + 1 := by omega
    have product : m * den = den * (num / den) + den := by rw [next]; ring
    split
    · omega
    · split <;> omega
  · have same : num / den = m := by omega
    have product : m * den = den * (num / den) := by rw [same]; ring
    split
    · omega
    · split <;> omega

-- Significand and shift of a finite float other than zero.
structure Canonical (m s : Nat) : Prop where
  positive : 0 < m
  significand : m < 2 ^ 53
  shift : s ≤ 2045
  full : s = 0 ∨ 2 ^ 52 ≤ m

namespace Interval

-- The quotient lies in the interval.
structure Spans (i : Interval) (num den : Nat) : Prop where
  low : i.low * den ≤ num
  high : num ≤ i.high * den
  inner : i.closed = false → i.low * den < num ∧ num < i.high * den

theorem holds_iff {i : Interval} {g : Int} {c : Nat} :
    i.holds g c = true ↔ i.Spans (c * (gridUnit g).1) (gridUnit g).2 := by
  unfold holds
  dsimp only
  cases closed : i.closed with
  | true =>
    simp only [if_true, Bool.and_eq_true, decide_eq_true_eq]
    exact ⟨fun ⟨low, high⟩ => ⟨low, high, by simp [closed]⟩, fun spans => ⟨spans.low, spans.high⟩⟩
  | false =>
    simp only [Bool.false_eq_true, if_false, Bool.and_eq_true, decide_eq_true_eq]
    exact ⟨fun ⟨low, high⟩ => ⟨low.le, high.le, fun _ => ⟨low, high⟩⟩, fun spans => spans.inner closed⟩

-- How far the interval reaches below its value.
def gapBelow (m s : Nat) : Nat := if m = 2 ^ 52 ∧ 0 < s then 2 ^ (s - 1) else 2 ^ s

theorem gapBelow_le (m s : Nat) : gapBelow m s ≤ 2 ^ s := by
  unfold gapBelow
  split
  · exact Nat.pow_le_pow_right (by decide) (Nat.sub_le s 1)
  · exact Nat.le_refl _

theorem gapBelow_pos (m s : Nat) : 0 < gapBelow m s := by
  unfold gapBelow
  split <;> exact Nat.two_pow_pos _

theorem around_low (positive : 0 < m) : (around m s).low + gapBelow m s = m * 2 ^ (s + 1) := by
  have steps : 2 ^ s ≤ m * 2 ^ (s + 1) := by
    calc 2 ^ s ≤ 2 ^ (s + 1) := Nat.pow_le_pow_right (by decide) (Nat.le_succ s)
      _ ≤ m * 2 ^ (s + 1) := Nat.le_mul_of_pos_left _ positive
  exact Nat.sub_add_cancel ((gapBelow_le m s).trans steps)

theorem around_high (m s : Nat) : (around m s).high = m * 2 ^ (s + 1) + 2 ^ s := rfl

theorem around_open (odd : m % 2 = 1) : (around m s).closed = false := by simp [around, odd]

theorem low_scaled (den : Nat) (positive : 0 < m) :
    (around m s).low * den + gapBelow m s * den = 2 * (m * (den * 2 ^ s)) := by
  rw [← Nat.add_mul, around_low positive]
  ring

theorem high_scaled (m s den : Nat) : (around m s).high * den = 2 * (m * (den * 2 ^ s)) + den * 2 ^ s := by
  rw [around_high]
  ring

theorem Spans.below (spans : (around m s).Spans (2 * num) den) (positive : 0 < m) :
    2 * (m * (den * 2 ^ s)) ≤ 2 * num + gapBelow m s * den := by
  have edge := low_scaled (s := s) den positive
  have low := spans.low
  omega

-- Half a step to each side, or less below a power of two.
theorem Spans.rounds (spans : (around m s).Spans (2 * num) den) (positive : 0 < m) :
    RoundsTo num (den * 2 ^ s) m := by
  have edge := low_scaled (s := s) den positive
  have gap : gapBelow m s * den ≤ den * 2 ^ s := by
    rw [Nat.mul_comm den]
    exact Nat.mul_le_mul_right den (gapBelow_le m s)
  obtain ⟨low, high, inner⟩ := spans
  rw [high_scaled] at high inner
  refine ⟨by omega, by omega, ?_⟩
  intro odd
  obtain ⟨above, below⟩ := inner (around_open odd)
  omega

end Interval

open Number.Interval

theorem shift_eq {q : Nat} (low : s = 0 ∨ 2 ^ (52 + s) ≤ q) (high : q < 2 ^ (53 + s)) : q.log2 - 52 = s := by
  rcases Nat.eq_zero_or_pos q with rfl | positive
  · rcases low with rfl | none
    · rfl
    · have := Nat.two_pow_pos (52 + s)
      omega
  · have upper := (Nat.log2_lt positive.ne').mpr high
    rcases low with rfl | lower
    · omega
    · have := (Nat.le_log2 positive.ne').mpr lower
      omega

theorem nearestBits_of {shift size : Nat} (divisor : 0 < den) (finite : shift * pow2 52 + size < infinityBits)
    (low : shift = 0 ∨ 2 ^ (52 + shift) * den ≤ num * unitsPerOne) (high : num * unitsPerOne < 2 ^ (53 + shift) * den)
    (rounded : roundHalfEven (num * unitsPerOne) (den * pow2 shift) = size) :
    nearestBits num den = shift * pow2 52 + size := by
  have same : ((num * unitsPerOne) / den).log2 - 52 = shift := by
    apply shift_eq
    · rwa [Nat.le_div_iff_mul_le divisor]
    · rwa [Nat.div_lt_iff_lt_mul divisor]
  unfold nearestBits
  dsimp only
  rw [same, rounded]
  exact Nat.min_eq_right finite.le

-- Just below a power of two the steps are half as wide, and rounding up carries into the exponent.
theorem nearestBits_carried (divisor : 0 < den) (bounded : s < 2045)
    (spans : (around (2 ^ 52) (s + 1)).Spans (2 * (num * unitsPerOne)) den)
    (less : num * unitsPerOne < 2 ^ (52 + (s + 1)) * den) : nearestBits num den = (s + 1) * pow2 52 + 2 ^ 52 := by
  have gap : gapBelow (2 ^ 52) (s + 1) * den = den * 2 ^ s := by
    rw [gapBelow, if_pos ⟨rfl, Nat.succ_pos s⟩, Nat.add_sub_cancel, Nat.mul_comm]
  have below := spans.below (by decide)
  rw [gap] at below
  have half : den * 2 ^ (s + 1) = 2 * (den * 2 ^ s) := by ring
  have top : 2 ^ (52 + (s + 1)) * den = 2 ^ 53 * (den * 2 ^ s) := by ring
  have bottom : 2 ^ (52 + s) * den = 2 ^ 52 * (den * 2 ^ s) := by ring
  have step : 0 < den * 2 ^ s := Nat.mul_pos divisor (Nat.two_pow_pos s)
  have rounded : roundHalfEven (num * unitsPerOne) (den * 2 ^ s) = 2 ^ 53 := by
    refine roundHalfEven_eq step ⟨?_, ?_, ?_⟩
    · omega
    · omega
    · omega
  rw [nearestBits_of divisor ?_ (.inr ?_) ?_ rounded]
  · simp only [pow2, Nat.pow_eq, Nat.reducePow]
    omega
  · simp only [infinityBits, pow2, Nat.pow_eq, Nat.reducePow]
    omega
  · omega
  · rw [show 53 + s = 52 + (s + 1) by omega]
    exact less

theorem nearestBits_eq (divisor : 0 < den) (canonical : Canonical m s)
    (spans : (around m s).Spans (2 * (num * unitsPerOne)) den) : nearestBits num den = s * pow2 52 + m := by
  obtain ⟨positive, significand, bounded, full⟩ := canonical
  have rounds := spans.rounds positive
  have below := rounds.below
  have above := rounds.above
  have step : 0 < den * 2 ^ s := Nat.mul_pos divisor (Nat.two_pow_pos s)
  have high : 2 ^ (53 + s) * den = 2 ^ 53 * (den * 2 ^ s) := by ring
  have low : 2 ^ (52 + s) * den = 2 ^ 52 * (den * 2 ^ s) := by ring
  by_cases less : 0 < s ∧ num * unitsPerOne < 2 ^ (52 + s) * den
  · obtain ⟨shifted, less⟩ := less
    have least : m = 2 ^ 52 := by
      by_contra other
      have more : (2 ^ 52 + 1) * (den * 2 ^ s) ≤ m * (den * 2 ^ s) := Nat.mul_le_mul_right _ (by omega)
      omega
    obtain ⟨t, rfl⟩ := Nat.exists_eq_succ_of_ne_zero shifted.ne'
    subst least
    exact nearestBits_carried divisor bounded spans less
  · apply nearestBits_of divisor
    · simp only [infinityBits, pow2, Nat.pow_eq, Nat.reducePow] at *
      omega
    · omega
    · have most : m * (den * 2 ^ s) ≤ (2 ^ 53 - 1) * (den * 2 ^ s) := Nat.mul_le_mul_right _ (by omega)
      omega
    · exact roundHalfEven_eq step rounds

theorem digitCount_bounds (n : Nat) : n < 10 ^ digitCount n ∧ (0 < n → 10 ^ digitCount n ≤ 10 * n) := by
  fun_induction digitCount n with
  | case1 n small => omega
  | case2 n large ih =>
    obtain ⟨below, above⟩ := ih
    have leading := above (by omega)
    rw [Nat.pow_succ]
    omega

theorem pow2_succ (n : Nat) : pow2 (n + 1) = 2 * pow2 n := Nat.pow_succ'

theorem pow2_pos (n : Nat) : 0 < pow2 n := Nat.two_pow_pos n

theorem pow2_add (a b : Nat) : pow2 (a + b) = pow2 a * pow2 b := Nat.pow_add 2 a b

theorem pow2_lt {a b : Nat} (less : a < b) : pow2 a < pow2 b := Nat.pow_lt_pow_right (by decide) less

theorem half_units : pow2 1075 = 2 * unitsPerOne := by rw [unitsPerOne, ← pow2_succ]

theorem pow10_le {a b : Nat} (less : a ≤ b) : pow10 a ≤ pow10 b := Nat.pow_le_pow_right (by decide) less

theorem pow10_zero : pow10 0 = 1 := rfl

theorem pow10_succ (n : Nat) : pow10 (n + 1) = 10 * pow10 n := Nat.pow_succ'

theorem pow10_pos (n : Nat) : 0 < pow10 n := Nat.pow_pos (by decide)

theorem pow10_add (a b : Nat) : pow10 (a + b) = pow10 a * pow10 b := Nat.pow_add 10 a b

theorem pow2_pow10 (n : Nat) : pow2 (3 * n) ≤ pow10 n := by
  calc pow2 (3 * n) = (2 ^ 3) ^ n := Nat.pow_mul 2 3 n
    _ ≤ pow10 n := Nat.pow_le_pow_left (by decide) n

theorem wide_units : pow2 1075 ≤ pow10 400 := (pow2_lt (by decide)).le.trans (pow2_pow10 400)

namespace Interval

theorem low_pos (canonical : Canonical m s) : 0 < (around m s).low := by
  have edge := around_low (s := s) canonical.positive
  have gap := gapBelow_le m s
  have twice : 2 ^ (s + 1) ≤ m * 2 ^ (s + 1) := Nat.le_mul_of_pos_left _ canonical.positive
  have positive := Nat.two_pow_pos s
  rw [Nat.pow_succ] at twice edge
  omega

theorem high_lt (canonical : Canonical m s) : (around m s).high < pow10 400 * pow2 1075 := by
  have few : m * 2 ^ (s + 1) ≤ 2 ^ 53 * 2 ^ (s + 1) := Nat.mul_le_mul_right _ canonical.significand.le
  have shift := canonical.shift
  calc (around m s).high ≤ 2 ^ 55 * 2 ^ s := by rw [around_high]; rw [Nat.pow_succ] at few ⊢; omega
    _ = pow2 (55 + s) := (Nat.pow_add 2 55 s).symm
    _ < pow2 (3 * 400 + 1075) := pow2_lt (by omega)
    _ = pow2 (3 * 400) * pow2 1075 := pow2_add (3 * 400) 1075
    _ ≤ pow10 400 * pow2 1075 := Nat.mul_le_mul_right _ (pow2_pow10 400)

end Interval

theorem gridUnit_eq (g : Int) : gridUnit g = (pow10 g.toNat * pow2 1075, pow10 (-g).toNat) := by
  cases g with
  | ofNat e => simp [gridUnit, pow10]
  | negSucc e => simp [gridUnit, pow10]

theorem gridUnit_pos (g : Int) : 0 < (gridUnit g).1 ∧ 0 < (gridUnit g).2 := by
  rw [gridUnit_eq]
  exact ⟨Nat.mul_pos (pow10_pos _) (pow2_pos _), pow10_pos _⟩

-- Decimals of an interval are neither too small nor too large to be rounded.
theorem magnitude_held {d : Decimal} (canonical : Canonical m s)
    (held : (around m s).holds d.exponent d.digits = true) :
    d.digits ≠ 0 ∧ ¬(digitCount d.digits + d.exponent : Int) < -400 ∧
      ¬400 < (digitCount d.digits + d.exponent : Int) := by
  obtain ⟨digits, g⟩ := d
  obtain ⟨low, high, _⟩ := holds_iff.mp held
  rw [gridUnit_eq] at low high
  dsimp only at *
  have bottom := low_pos canonical
  have top := high_lt canonical
  have some : 0 < digits := Nat.pos_of_mul_pos_right ((Nat.mul_pos bottom (pow10_pos _)).trans_le low)
  obtain ⟨few, many⟩ := digitCount_bounds digits
  have leading : pow10 (digitCount digits) ≤ 10 * digits := many some
  refine ⟨some.ne', ?_, ?_⟩
  · intro small
    have whole : g.toNat = 0 := by omega
    have near : pow10 (-g).toNat < pow10 (digitCount digits + 400) := by
      calc pow10 (-g).toNat ≤ (around m s).low * pow10 (-g).toNat := Nat.le_mul_of_pos_left _ bottom
        _ ≤ digits * (pow10 0 * pow2 1075) := whole ▸ low
        _ = digits * pow2 1075 := by rw [pow10_zero, Nat.one_mul]
        _ < pow10 (digitCount digits) * pow10 400 := Nat.mul_lt_mul_of_lt_of_le few wide_units (pow10_pos _)
        _ = pow10 (digitCount digits + 400) := (pow10_add _ _).symm
    exact absurd near (Nat.not_lt.mpr (pow10_le (by omega)))
  · intro large
    have near : digits * pow10 g.toNat < pow10 400 * pow10 (-g).toNat := by
      apply Nat.lt_of_mul_lt_mul_right (a := pow2 1075)
      calc digits * pow10 g.toNat * pow2 1075 = digits * (pow10 g.toNat * pow2 1075) := Nat.mul_assoc _ _ _
        _ ≤ (around m s).high * pow10 (-g).toNat := high
        _ < pow10 400 * pow2 1075 * pow10 (-g).toNat := Nat.mul_lt_mul_of_pos_right top (pow10_pos _)
        _ = pow10 400 * pow10 (-g).toNat * pow2 1075 := Nat.mul_right_comm _ _ _
    have far : 10 * (pow10 400 * pow10 (-g).toNat) ≤ 10 * (digits * pow10 g.toNat) := by
      calc 10 * (pow10 400 * pow10 (-g).toNat) = pow10 (400 + (-g).toNat + 1) := by
            rw [pow10_succ (400 + _), pow10_add 400]
        _ ≤ pow10 (digitCount digits + g.toNat) := pow10_le (by omega)
        _ = pow10 (digitCount digits) * pow10 g.toNat := pow10_add _ _
        _ ≤ 10 * digits * pow10 g.toNat := Nat.mul_le_mul_right _ leading
        _ = 10 * (digits * pow10 g.toNat) := Nat.mul_assoc _ _ _
    omega

theorem nearest_held {d : Decimal} (canonical : Canonical m s)
    (held : (around m s).holds d.exponent d.digits = true) : d.nearest = s * pow2 52 + m := by
  obtain ⟨some, large, small⟩ := magnitude_held canonical held
  have spans := holds_iff.mp held
  obtain ⟨digits, exponent⟩ := d
  unfold Decimal.nearest
  dsimp only at *
  rw [if_neg (by simp only [not_or]; exact ⟨some, large⟩), if_neg small]
  cases exponent with
  | ofNat e =>
    apply nearestBits_eq Nat.one_pos canonical
    have same : 2 * (digits * pow10 e * unitsPerOne) = digits * (pow10 e * (2 * unitsPerOne)) := by ring
    rwa [gridUnit, half_units, ← same] at spans
  | negSucc e =>
    apply nearestBits_eq (Nat.pow_pos (by decide)) canonical
    rwa [gridUnit, half_units, Nat.mul_left_comm] at spans

end BenchCharts.Number
