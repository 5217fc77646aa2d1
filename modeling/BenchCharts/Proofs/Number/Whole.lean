import BenchCharts.Proofs.Number.Closest

namespace BenchCharts.Number
open Float.Model Float.Model.UnpackedFloat

variable {x y : Float} {total : Int} {negative : Bool} {n : Nat} {values : List Float}

def units (x : Float) : Int := signedSize (isNegative x) (unitsOf (size x))

theorem value_units (x : Float) : value x = units x / unitsPerOne := rfl

theorem units_negative (sign : isNegative x = true) : units x ≤ 0 := by
  simp [units, signedSize, sign]

theorem exists_size (small : n ≤ 2 ^ 53) : ∃ k < infinityBits, unitsOf k = n * unitsPerOne := by
  rcases Nat.eq_zero_or_pos n with rfl | positive
  · exact ⟨0, by decide, (Nat.zero_mul _).symm⟩
  rcases Nat.eq_or_lt_of_le small with rfl | less
  · have canonical : Canonical (2 ^ 52) (1 + 1074) := ⟨by decide, by decide, by decide, .inr le_rfl⟩
    have double : 2 ^ 52 * 2 ^ 1 = 2 ^ 53 := by decide
    refine ⟨_, canonical.size_lt, ?_⟩
    rw [unitsOf_canonical canonical, units_pow, ← Nat.mul_assoc, double]
  · -- The significand is shifted up until its first bit is in place.
    have low := Nat.log2_self_le positive.ne'
    have high := Nat.lt_log2_self (n := n)
    have length : n.log2 < 53 := (Nat.log2_lt positive.ne').mpr less
    have full : 2 ^ n.log2 * 2 ^ (52 - n.log2) = 2 ^ 52 := by
      rw [← Nat.pow_add]
      congr 1
      omega
    have step := Nat.two_pow_pos (52 - n.log2)
    have least : 2 ^ 52 ≤ n * 2 ^ (52 - n.log2) := full ▸ Nat.mul_le_mul_right _ low
    have most : n * 2 ^ (52 - n.log2) < 2 ^ 53 := by
      calc n * 2 ^ (52 - n.log2) < 2 ^ (n.log2 + 1) * 2 ^ (52 - n.log2) := Nat.mul_lt_mul_of_pos_right high step
        _ = 2 ^ n.log2 * 2 ^ (52 - n.log2) * 2 := by ring
        _ = 2 ^ 53 := by rw [full, ← Nat.pow_succ]
    have canonical : Canonical (n * 2 ^ (52 - n.log2)) (1022 + n.log2) := ⟨by omega, most, by omega, .inr least⟩
    have place : 52 - n.log2 + (1022 + n.log2) = 1074 := by omega
    have one : 2 ^ (52 - n.log2) * 2 ^ (1022 + n.log2) = unitsPerOne :=
      (pow2_add _ _).symm.trans (congrArg pow2 place)
    refine ⟨_, canonical.size_lt, ?_⟩
    rw [unitsOf_canonical canonical, Nat.mul_assoc, one]

def Counted (total : Int) : Prop := ∃ k < infinityBits, unitsOf k = total.natAbs

theorem counted_whole (whole : (unitsPerOne : Int) ∣ total) (small : total.natAbs ≤ 2 ^ 53 * unitsPerOne) : Counted total := by
  obtain ⟨n, rfl⟩ := whole
  rw [Int.natAbs_mul, Int.natAbs_natCast, Nat.mul_comm] at small
  obtain ⟨k, bounded, same⟩ := exists_size (Nat.le_of_mul_le_mul_right small (pow2_pos _))
  exact ⟨k, bounded, by rw [same, Int.natAbs_mul, Int.natAbs_natCast, Nat.mul_comm]⟩

theorem ofUnits_counted (negative : Bool) (counted : Counted total) : (ofUnits total negative).isFinite = true ∧
    units (ofUnits total negative) = total ∧
    isNegative (ofUnits total negative) = if total = 0 then negative else decide (total < 0) := by
  obtain ⟨k, bounded, same⟩ := counted
  have bits : ofUnits total negative = ofSize (if total = 0 then negative else decide (total < 0)) k := by
    rw [ofUnits, ← same, nearestBits_unitsOf bounded]
  rw [bits, isFinite_iff, units, size_ofSize _ bounded.le, isNegative_ofSize _ bounded.le, same, signed_natAbs]
  exact ⟨bounded, rfl, rfl⟩

-- Adding a float to as many units as are there. A zero was negative only if nothing positive was added
-- before, so opposite numbers leave a positive one.
theorem add_counted (counted : Counted total) (falls : negative = true → total ≤ 0) (finite : y.isFinite = true) :
    ofUnits total negative + y = ofUnits (total + units y) (negative && isNegative y) := by
  obtain ⟨bounded, same, sign⟩ := ofUnits_counted negative counted
  have sum := add_nearest bounded finite
  change _ = ofUnits (units (ofUnits total negative) + units y) _ at sum
  rw [sum, same, sign]
  by_cases none : total + units y = 0
  · congr 1
    by_cases zero : total = 0
    · rw [if_pos zero]
    · rw [if_neg zero]
      cases other : isNegative y with
      | false => simp
      | true =>
        have low := units_negative other
        have positive : negative = false := Bool.eq_false_iff.mpr fun set => by
          have := falls set
          omega
        have more : ¬total < 0 := by omega
        simp [positive, more]
  · exact ofUnits_some none _ _

theorem foldl_counted (whole : ∀ x ∈ values, x.isFinite = true ∧ (unitsPerOne : Int) ∣ units x)
    (start : (unitsPerOne : Int) ∣ total) (falls : negative = true → total ≤ 0)
    (room : total.natAbs + (values.map fun x => (units x).natAbs).sum ≤ 2 ^ 53 * unitsPerOne) :
    values.foldl (· + ·) (ofUnits total negative) =
      ofUnits (total + (values.map units).sum) (negative && values.all isNegative) ∧
    Counted (total + (values.map units).sum) := by
  have counted : Counted total := counted_whole start (by omega)
  induction values generalizing total negative with
  | nil => simpa using counted
  | cons y values ih =>
    obtain ⟨⟨finite, divides⟩, rest⟩ := List.forall_mem_cons.mp whole
    simp only [List.map_cons, List.sum_cons] at room
    have sinks : (negative && isNegative y) = true → total + units y ≤ 0 := by
      intro both
      obtain ⟨first, second⟩ := Bool.and_eq_true_iff.mp both
      have := falls first
      have := units_negative second
      omega
    have more : (unitsPerOne : Int) ∣ total + units y := Int.dvd_add start divides
    obtain ⟨made, bounded⟩ := ih rest more sinks (by omega) (counted_whole more (by omega))
    rw [List.foldl_cons, add_counted counted falls finite, made]
    simpa only [List.map_cons, List.sum_cons, List.all_cons, Int.add_assoc, Bool.and_assoc, true_and] using bounded

-- Whole numbers are those of which the units make up ones.
theorem whole_iff : (∃ n : ℤ, value x = n) ↔ (unitsPerOne : Int) ∣ units x := by
  have one := unitsPerOne_pos.ne'
  constructor
  · rintro ⟨n, same⟩
    rw [value_units, div_eq_iff one] at same
    exact ⟨n, by rw [Int.mul_comm]; exact_mod_cast same⟩
  · rintro ⟨n, same⟩
    refine ⟨n, ?_⟩
    rw [value_units, same, Int.cast_mul, Int.cast_natCast, mul_div_cancel_left₀ _ one]

theorem pow2_cast (j : Nat) : (pow2 j : Int) = 2 ^ j := Nat.cast_pow 2 j

theorem toFloat_units (n : UInt64) : n.toFloat = ofUnits (n.toNat * unitsPerOne) false := by
  obtain ⟨j, place⟩ : ∃ j : Nat, j = 1074 := ⟨_, rfl⟩
  have one : (unitsPerOne : Int) = 2 ^ j := by
    rw [← pow2_cast, place]
    rfl
  have model : n.toFloat =
      Float.ofModel (.pack (UnpackedFloat.normalize .binary64 n.toNat ((j : Int) - 1074) (signOf false))) := by
    rw [place]
    rfl
  rw [model, normalize_units, one]

end BenchCharts.Number
