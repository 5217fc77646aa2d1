import BenchCharts.Proofs.Number.Whole
import BenchCharts.Stats

namespace BenchCharts.Stats
open Number

variable {values other : List Float} {n : Nat}

def defined (values : List Float) : List Float := values.filter fun v => !v.isNaN

theorem ofValues_count (values : List Float) : (ofValues values).count = (defined values).length := by
  unfold ofValues
  dsimp only
  split <;> rfl

theorem ofValues_mean (some : defined values ≠ []) :
    (ofValues values).mean = sum (defined values) / size (defined values).length := by
  unfold ofValues
  dsimp only
  rw [if_neg (by simpa [defined] using some)]
  rfl

structure Tallies (values : List Float) : Prop where
  some : values ≠ []
  few : values.length ≤ 2 ^ 53
  whole : ∀ x ∈ values, x.isFinite = true ∧ ∃ n : ℤ, value x = n
  room : (values.map fun x => |value x|).sum ≤ 2 ^ 53

theorem Tallies.perm (tallies : Tallies values) (order : values.Perm other) : Tallies other where
  some none := tallies.some (none ▸ order : values.Perm []).eq_nil
  few := order.length_eq ▸ tallies.few
  whole x member := tallies.whole x (order.mem_iff.mpr member)
  room := (order.map fun x => |value x|).sum_eq ▸ tallies.room

theorem sum_ones (f : Float → ℚ) : (values.map fun x => f x / unitsPerOne).sum = (values.map f).sum / unitsPerOne := by
  simp only [div_eq_mul_inv]
  exact List.sum_map_mul_right _ _ _

theorem sum_value (values : List Float) : (values.map value).sum = (values.map units).sum / unitsPerOne := by
  rw [Int.cast_list_sum, List.map_map]
  exact sum_ones _

theorem sum_abs_value (values : List Float) :
    (values.map fun x => |value x|).sum = (values.map fun x => (units x).natAbs).sum / unitsPerOne := by
  have size (x : Float) : |value x| = (units x).natAbs / unitsPerOne := by
    rw [value_units, abs_div, Nat.abs_cast, Nat.cast_natAbs, Int.cast_abs]
  rw [funext size, Nat.cast_list_sum, List.map_map]
  exact sum_ones _

-- The same in units, which can be told by computation.
theorem tallies_iff : Tallies values ↔ values ≠ [] ∧ values.length ≤ 2 ^ 53 ∧
    (∀ x ∈ values, x.isFinite = true ∧ (unitsPerOne : Int) ∣ units x) ∧
    (values.map fun x => (units x).natAbs).sum ≤ 2 ^ 53 * unitsPerOne := by
  have room : (values.map fun x => |value x|).sum ≤ 2 ^ 53 ↔
      (values.map fun x => (units x).natAbs).sum ≤ 2 ^ 53 * unitsPerOne := by
    rw [sum_abs_value, div_le_iff₀ unitsPerOne_pos]
    norm_cast
  simp only [← whole_iff, ← room]
  exact ⟨fun tallies => ⟨tallies.some, tallies.few, tallies.whole, tallies.room⟩,
    fun ⟨filled, few, whole, room⟩ => ⟨filled, few, whole, room⟩⟩

instance : Decidable (Tallies values) := decidable_of_iff _ tallies_iff.symm

theorem sum_start : (-0.0 : Float) = ofUnits 0 true := by decide +kernel

-- Nothing is rounded away while the values are summed.
theorem Tallies.sum_units (tallies : Tallies values) : sum values = ofUnits (values.map units).sum (values.all isNegative) ∧
    Counted (values.map units).sum := by
  obtain ⟨_, _, whole, room⟩ := tallies_iff.mp tallies
  have start : true = true → (0 : Int) ≤ 0 := fun _ => le_rfl
  have made := foldl_counted whole (Int.dvd_zero _) start (by rwa [Int.natAbs_zero, Nat.zero_add])
  rwa [← sum_start, Int.zero_add, Bool.true_and] at made

theorem Tallies.sum_value (tallies : Tallies values) :
    (sum values).isFinite = true ∧ value (sum values) = (values.map value).sum := by
  obtain ⟨made, counted⟩ := tallies.sum_units
  obtain ⟨finite, same, _⟩ := ofUnits_counted (values.all isNegative) counted
  rw [made, value_units, same, Stats.sum_value]
  exact ⟨finite, rfl⟩

theorem size_value (few : n ≤ 2 ^ 53) : (size n).isFinite = true ∧ value (size n) = n := by
  have counted : Counted (n * unitsPerOne) := by
    refine counted_whole (Int.dvd_mul_left _ _) ?_
    rw [← Int.natCast_mul, Int.natAbs_natCast]
    exact Nat.mul_le_mul_right _ few
  have same : n.toUInt64.toNat = n := UInt64.toNat_ofNat_of_lt' (by simp only [UInt64.size]; omega)
  obtain ⟨finite, units, _⟩ := ofUnits_counted false counted
  rw [size, toFloat_units, same, value_units, units, Int.cast_mul, Int.cast_natCast, Int.cast_natCast,
    mul_div_cancel_right₀ _ unitsPerOne_pos.ne']
  exact ⟨finite, rfl⟩

theorem size_large (some : 0 < n) (few : n ≤ 2 ^ 53) : 1.0 ≤ size n := by
  obtain ⟨finite, whole⟩ := size_value few
  rw [← value_le_iff (by decide) finite, value_one, whole]
  exact_mod_cast some

theorem Tallies.mean_nearest (tallies : Tallies values) :
    Nearest (sum values / size values.length) ((values.map value).sum / values.length) := by
  obtain ⟨finite, total⟩ := tallies.sum_value
  obtain ⟨bounded, terms⟩ := size_value tallies.few
  have large := size_large (List.length_pos_iff.mpr tallies.some) tallies.few
  have rounds := div_rounds finite bounded (positive_of_large bounded large).units
  rw [total, terms] at rounds
  exact rounds.nearest (div_finite finite bounded large)

theorem Tallies.sum_perm (tallies : Tallies values) (order : values.Perm other) : sum values = sum other := by
  rw [tallies.sum_units.1, (tallies.perm order).sum_units.1, (order.map units).sum_eq, order.all_eq]

theorem ofValues_perm (tallies : Tallies (defined values)) (order : values.Perm other) :
    (ofValues other).mean = (ofValues values).mean ∧ (ofValues other).count = (ofValues values).count := by
  have rest : (defined values).Perm (defined other) := order.filter _
  rw [ofValues_mean tallies.some, ofValues_mean (tallies.perm rest).some, ofValues_count, ofValues_count,
    tallies.sum_perm rest, rest.length_eq]
  exact ⟨rfl, rfl⟩

theorem ofValues_nearest (tallies : Tallies (defined values)) :
    Nearest (ofValues values).mean (((defined values).map value).sum / (defined values).length) := by
  rw [ofValues_mean tallies.some]
  exact tallies.mean_nearest

end BenchCharts.Stats
