import BenchCharts.Proofs.Number.Nearest

namespace BenchCharts.Number

open Number.Interval

variable {m s : Nat}

namespace Interval

variable {i : Interval} {g : Int} {c : Nat} {tie : Tie}

section Cross

variable {a b a' b' x : Nat} (divisor : 0 < b) (divisor' : 0 < b') (same : a * b' = a' * b)

include divisor divisor' same

theorem cross_le : x * b ≤ a ↔ x * b' ≤ a' := by
  rw [← Nat.mul_le_mul_right_iff divisor', same, Nat.mul_right_comm, Nat.mul_le_mul_right_iff divisor]

theorem cross_ge : a ≤ x * b ↔ a' ≤ x * b' := by
  rw [← Nat.mul_le_mul_right_iff divisor', same, Nat.mul_right_comm, Nat.mul_le_mul_right_iff divisor]

-- One quotient given in two ways.
theorem Spans.cross (spans : i.Spans a b) : i.Spans a' b' := by
  have le : ∀ x, x * b ≤ a ↔ x * b' ≤ a' := fun x => cross_le divisor divisor' same
  have ge : ∀ x, a ≤ x * b ↔ a' ≤ x * b' := fun x => cross_ge divisor divisor' same
  refine ⟨(le _).mp spans.low, (ge _).mp spans.high, fun closed => ?_⟩
  obtain ⟨above, below⟩ := spans.inner closed
  rw [← Nat.not_le] at above below ⊢
  rw [← Nat.not_le, ← le, ← ge]
  exact ⟨above, below⟩

end Cross

theorem holds_scaled (k : Nat) : i.holds (g + k) c = true ↔ i.holds g (c * pow10 k) = true := by
  have balance : pow10 (g + k).toNat * pow10 (-g).toNat = pow10 k * pow10 g.toNat * pow10 (-(g + k)).toNat := by
    rw [← pow10_add, ← pow10_add, ← pow10_add]
    congr 1
    omega
  have same : c * (pow10 (g + k).toNat * pow2 1075) * pow10 (-g).toNat =
      c * pow10 k * (pow10 g.toNat * pow2 1075) * pow10 (-(g + k)).toNat := by
    calc c * (pow10 (g + k).toNat * pow2 1075) * pow10 (-g).toNat
      _ = c * pow2 1075 * (pow10 (g + k).toNat * pow10 (-g).toNat) := by ring
      _ = c * pow2 1075 * (pow10 k * pow10 g.toNat * pow10 (-(g + k)).toNat) := by rw [balance]
      _ = c * pow10 k * (pow10 g.toNat * pow2 1075) * pow10 (-(g + k)).toNat := by ring
  rw [holds_iff, holds_iff, gridUnit_eq, gridUnit_eq]
  constructor
  · exact Spans.cross (pow10_pos _) (pow10_pos _) same
  · exact Spans.cross (pow10_pos _) (pow10_pos _) same.symm

theorem stripped_holds {digits : Nat} (held : i.holds g digits = true) :
    i.holds (Decimal.stripped digits g).exponent (Decimal.stripped digits g).digits = true := by
  fun_induction Decimal.stripped digits g with
  | case1 digits g zeros ih =>
    apply ih
    have whole : digits / 10 * pow10 1 = digits := Nat.div_mul_cancel (Nat.dvd_of_mod_eq_zero zeros.2)
    rw [← whole] at held
    exact (holds_scaled 1).mpr held
  | case2 digits g none => exact held

theorem pick_holds (picked : i.pick? tie g = some c) : i.holds g c = true := by
  unfold pick? at picked
  dsimp only at picked
  split at picked
  · rename_i below above
    cases picked
    split
    · exact below
    · exact above
  · rename_i below _
    cases picked
    exact below
  · rename_i _ above
    cases picked
    exact above
  · cases picked

theorem pick_none (missed : i.pick? tie g = none) :
    i.holds g (i.value * (gridUnit g).2 / (gridUnit g).1) = false ∧
      i.holds g (i.value * (gridUnit g).2 / (gridUnit g).1 + 1) = false := by
  unfold pick? at missed
  dsimp only at missed
  split at missed <;> simp_all

-- A grid finer than the interval is wide meets it next to its value.
theorem holds_fine (positive : 0 < m) (fine : (gridUnit g).1 < (gapBelow m s + 2 ^ s) * (gridUnit g).2) :
    (around m s).holds g ((around m s).value * (gridUnit g).2 / (gridUnit g).1) = true ∨
      (around m s).holds g ((around m s).value * (gridUnit g).2 / (gridUnit g).1 + 1) = true := by
  rw [holds_iff, holds_iff]
  obtain ⟨spaced, divisor⟩ := gridUnit_pos g
  generalize (gridUnit g).1 = up at *
  generalize (gridUnit g).2 = down at *
  have low : (around m s).low * down + gapBelow m s * down = (around m s).value * down := by
    rw [← Nat.add_mul, around_low positive]
    rfl
  have high : (around m s).high * down = (around m s).value * down + 2 ^ s * down := by
    rw [← Nat.add_mul]
    rfl
  have step : 0 < 2 ^ s * down := Nat.mul_pos (Nat.two_pow_pos s) divisor
  have gap : 0 < gapBelow m s * down := Nat.mul_pos (gapBelow_pos m s) divisor
  have split := Nat.div_add_mod' ((around m s).value * down) up
  have rest := Nat.mod_lt ((around m s).value * down) spaced
  rw [Nat.add_mul] at fine
  rcases Nat.lt_or_ge ((around m s).low * down) ((around m s).value * down / up * up) with inside | outside
  · left
    exact ⟨by omega, by omega, fun _ => ⟨by omega, by omega⟩⟩
  · right
    rw [Nat.succ_mul]
    exact ⟨by omega, by omega, fun _ => ⟨by omega, by omega⟩⟩

-- Seventeen digits space the grid by at most 10^-16 of the value.
theorem spacing (large : pow2 1075 ≤ i.value * pow10 400) :
    (gridUnit (i.magnitude - 17)).1 * pow10 16 ≤ i.value * (gridUnit (i.magnitude - 17)).2 := by
  have scaled := Nat.div_mul_le_self (i.value * pow10 400) (pow2 1075)
  have leading := (digitCount_bounds (i.value * pow10 400 / pow2 1075)).2 (Nat.div_pos large (pow2_pos _))
  rw [gridUnit_eq, magnitude]
  dsimp only
  generalize i.value * pow10 400 / pow2 1075 = lead at *
  generalize placed : (digitCount lead - 400 - 17 : Int) = g
  have places : pow10 g.toNat * pow10 16 * pow10 401 = pow10 (digitCount lead) * pow10 (-g).toNat := by
    rw [← pow10_add, ← pow10_add, ← pow10_add]
    congr 1
    omega
  apply Nat.le_of_mul_le_mul_right _ (pow10_pos 401)
  calc pow10 g.toNat * pow2 1075 * pow10 16 * pow10 401
    _ = pow10 g.toNat * pow10 16 * pow10 401 * pow2 1075 := by ring
    _ = pow10 (digitCount lead) * pow10 (-g).toNat * pow2 1075 := by rw [places]
    _ ≤ 10 * lead * pow10 (-g).toNat * pow2 1075 := Nat.mul_le_mul_right _ (Nat.mul_le_mul_right _ leading)
    _ = 10 * pow10 (-g).toNat * (lead * pow2 1075) := by ring
    _ ≤ 10 * pow10 (-g).toNat * (i.value * pow10 400) := Nat.mul_le_mul_left _ scaled
    _ = i.value * pow10 (-g).toNat * pow10 401 := by rw [pow10_succ 400]; ring

theorem gap_wide (canonical : Canonical m s) : m * 2 ^ (s + 1) < pow10 16 * (gapBelow m s + 2 ^ s) := by
  have sixteen : pow10 16 = 10000000000000000 := rfl
  rw [sixteen]
  unfold gapBelow
  split
  · rename_i least
    obtain ⟨rfl, shifted⟩ := least
    obtain ⟨t, rfl⟩ := Nat.exists_eq_succ_of_ne_zero shifted.ne'
    have positive := Nat.two_pow_pos t
    simp only [Nat.succ_eq_add_one, Nat.add_sub_cancel, Nat.pow_succ]
    omega
  · have significand : m * 2 ^ s ≤ 2 ^ 53 * 2 ^ s := Nat.mul_le_mul_right _ canonical.significand.le
    have positive := Nat.two_pow_pos s
    rw [Nat.pow_succ, ← Nat.mul_assoc]
    omega

theorem seventeen_digits (canonical : Canonical m s) : (gridUnit ((around m s).magnitude - 17)).1 <
    (gapBelow m s + 2 ^ s) * (gridUnit ((around m s).magnitude - 17)).2 := by
  have value : (around m s).value = m * 2 ^ (s + 1) := rfl
  have large : pow2 1075 ≤ (around m s).value * pow10 400 := by
    rw [value]
    exact wide_units.trans (Nat.le_mul_of_pos_left _ (Nat.mul_pos canonical.positive (Nat.two_pow_pos _)))
  have spaced := spacing large
  obtain ⟨_, divisor⟩ := gridUnit_pos ((around m s).magnitude - 17)
  generalize gridUnit ((around m s).magnitude - 17) = grid at *
  apply Nat.lt_of_mul_lt_mul_right (a := pow10 16)
  calc grid.1 * pow10 16 ≤ m * 2 ^ (s + 1) * grid.2 := spaced
    _ < pow10 16 * (gapBelow m s + 2 ^ s) * grid.2 := Nat.mul_lt_mul_of_pos_right (gap_wide canonical) divisor
    _ = (gapBelow m s + 2 ^ s) * grid.2 * pow10 16 := by ring

-- Whatever the search finds lies in the interval.
theorem shortest_found {d : Decimal} (found : ∃ n ∈ List.range 17,
    (i.pick? tie (i.magnitude - (n + 1))).map (.stripped · (i.magnitude - (n + 1))) = some d) :
    i.holds d.exponent d.digits = true := by
  obtain ⟨n, _, found⟩ := found
  obtain ⟨c, picked, rfl⟩ := Option.map_eq_some_iff.mp found
  exact stripped_holds (pick_holds picked)

end Interval

theorem shortest_holds (canonical : Canonical m s) (tie : Tie) :
    (around m s).holds (shortest tie m s).exponent (shortest tie m s).digits = true := by
  rw [shortest, if_neg canonical.positive.ne', Interval.shortest]
  dsimp only
  cases found : (List.range 17).findSome? fun (n : Nat) => ((around m s).pick? tie ((around m s).magnitude - (n + 1))).map
      (Decimal.stripped · ((around m s).magnitude - (n + 1))) with
  | some d =>
    rw [Option.getD_some]
    exact shortest_found (List.exists_of_findSome?_eq_some found)
  | none =>
    have missed := List.findSome?_eq_none_iff.mp found 16 (by decide)
    obtain ⟨below, above⟩ := pick_none (Option.map_eq_none_iff.mp missed)
    have last : ((16 : Nat) + 1 : Int) = 17 := rfl
    rw [last] at below above
    rcases holds_fine canonical.positive (seventeen_digits canonical) with met | met
    · rw [below] at met
      cases met
    · rw [above] at met
      cases met

end BenchCharts.Number
