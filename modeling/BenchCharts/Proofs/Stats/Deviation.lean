import BenchCharts.Proofs.Number.Unsigned
import BenchCharts.Proofs.Stats.Mean

namespace BenchCharts.Stats
open Number

variable {values others : List Float} {x mean : Float} {v : ℤ}

theorem ofValues_congr (same : defined values = defined others) : ofValues values = ofValues others := by
  unfold defined at same
  unfold ofValues
  rw [same]

theorem ofValues_none (none : defined values = []) : ofValues values = ⟨undefined, undefined, 0⟩ :=
  @ofValues_congr values [] none

theorem ofValues_few (few : (defined values).length < 2) : (ofValues values).std = undefined := by
  unfold ofValues
  dsimp only
  split
  · rfl
  · exact if_pos few

def squares (mean : Float) (values : List Float) : List Float := values.map fun v => (v - mean) * (v - mean)

theorem squares_filled (some : values ≠ []) : squares mean values ≠ [] := by
  simpa [squares] using some

theorem ofValues_std (many : 2 ≤ (defined values).length) : (ofValues values).std =
    (sum (squares (ofValues values).mean (defined values)) / size ((defined values).length - 1)).sqrt := by
  have some : defined values ≠ [] := List.ne_nil_of_length_pos (by omega)
  rw [ofValues_mean some]
  unfold ofValues
  dsimp only
  have filled : ¬(defined values).length = 0 := by omega
  have enough : ¬(defined values).length < 2 := by omega
  unfold defined at filled enough
  rw [if_neg filled, if_neg enough]
  rfl

theorem sum_unsigned (some : values ≠ []) (terms : ∀ x ∈ values, isNegative x = false) : isNegative (sum values) = false := by
  cases values with
  | nil => exact absurd rfl some
  | cons x values =>
    obtain ⟨first, rest⟩ := List.forall_mem_cons.mp terms
    rw [sum, List.foldl_cons]
    exact foldl_unsigned (first_unsigned first) rest

theorem std_unsigned (values : List Float) : isNegative (ofValues values).std = false := by
  by_cases few : (defined values).length < 2
  · rw [ofValues_few few]
    decide
  · have many : 2 ≤ (defined values).length := by omega
    have some : defined values ≠ [] := List.ne_nil_of_length_pos (by omega)
    have terms : ∀ x ∈ squares (ofValues values).mean (defined values), isNegative x = false := by
      intro x member
      obtain ⟨v, _, rfl⟩ := List.mem_map.mp member
      exact square_unsigned _
    rw [ofValues_std many]
    exact sqrt_unsigned (div_unsigned (sum_unsigned (squares_filled some) terms) (toFloat_unsigned _))

-- A list and the same with one more entry that is no number.
def Gapped (values others : List Float) : Prop :=
  ∃ front gap back, gap.isNaN = true ∧ values = front ++ back ∧ others = front ++ gap :: back

theorem Gapped.defined (gapped : Gapped values others) : defined values = defined others := by
  obtain ⟨front, gap, back, undefined, rfl, rfl⟩ := gapped
  have skipped : ¬(!gap.isNaN) = true := by simp only [undefined, Bool.not_true, Bool.false_eq_true, not_false_eq_true]
  rw [Stats.defined, Stats.defined, List.filter_append, List.filter_append, List.filter_cons, if_neg skipped]

-- Entries are put in and taken out one by one.
theorem gapped_defined (steps : Relation.EqvGen Gapped values others) : defined values = defined others := by
  induction steps with
  | rel values others step => exact step.defined
  | refl values => rfl
  | symm values others _ ih => exact ih.symm
  | trans values middle others _ _ first second => exact first.trans second

theorem sum_equal {f : Float → ℚ} {c : ℚ} (same : ∀ x ∈ values, f x = c) : (values.map f).sum = values.length * c := by
  rw [List.map_congr_left same, List.map_const', List.sum_replicate, nsmul_eq_mul]

theorem Tallies.of_equal (same : ∀ x ∈ values, x.isFinite = true ∧ value x = v) (some : values ≠ [])
    (few : values.length ≤ 2 ^ 53) (small : |v| * values.length ≤ 2 ^ 53) : Tallies values where
  some := some
  few := few
  whole x member := ⟨(same x member).1, v, (same x member).2⟩
  room := by
    have sizes : ∀ x ∈ values, |value x| = |(v : ℚ)| := fun x member => by rw [(same x member).2]
    rw [sum_equal sizes, mul_comm]
    exact_mod_cast small

theorem mean_equal (same : ∀ x ∈ values, x.isFinite = true ∧ value x = v) (some : values ≠ [])
    (nearest : Nearest mean ((values.map value).sum / values.length)) : value mean = v := by
  obtain ⟨x, member⟩ := List.exists_mem_of_ne_nil _ some
  obtain ⟨finite, here⟩ := same x member
  have terms : (0 : ℚ) < values.length := Nat.cast_pos.mpr (List.length_pos_iff.mpr some)
  have total : (values.map value).sum / values.length = v := by
    rw [sum_equal fun x member => (same x member).2, mul_div_cancel_left₀ _ terms.ne']
  have close := nearest.closest x finite
  rw [total, here, sub_self, abs_zero] at close
  exact sub_eq_zero.mp (abs_eq_zero.mp (le_antisymm close (abs_nonneg _)))

theorem squares_equal (same : ∀ x ∈ values, x.isFinite = true ∧ value x = v) (finite : mean.isFinite = true)
    (middle : value mean = v) : ∀ y ∈ squares mean values, y = 0.0 := by
  intro y member
  obtain ⟨x, listed, rfl⟩ := List.mem_map.mp member
  obtain ⟨bounded, here⟩ := same x listed
  have difference := sub_rounds bounded finite
  rw [here, middle, sub_self] at difference
  obtain ⟨kept, nothing⟩ := rounds_zero difference
  have square := mul_rounds kept kept
  rw [nothing, mul_zero] at square
  exact eq_zero square.none (square_unsigned _)

theorem foldl_zeros (zeros : ∀ x ∈ values, x = 0.0) : values.foldl (· + ·) 0.0 = 0.0 := by
  induction values with
  | nil => rfl
  | cons x values ih =>
    obtain ⟨rfl, later⟩ := List.forall_mem_cons.mp zeros
    have none : (0.0 : Float) + 0.0 = 0.0 := by decide
    rw [List.foldl_cons, none]
    exact ih later

theorem sum_zeros (some : values ≠ []) (zeros : ∀ x ∈ values, x = 0.0) : sum values = 0.0 := by
  cases values with
  | nil => exact absurd rfl some
  | cons x values =>
    obtain ⟨rfl, later⟩ := List.forall_mem_cons.mp zeros
    have none : (-0.0 : Float) + 0.0 = 0.0 := by decide
    rw [sum, List.foldl_cons, none]
    exact foldl_zeros later

theorem zero_over (finite : x.isFinite = true) (large : 1.0 ≤ x) : 0.0 / x = 0.0 := by
  have positive := positive_of_large finite large
  have quotient := div_rounds (by decide) finite positive.units (x := 0.0)
  rw [value_zero, zero_div] at quotient
  exact eq_zero quotient.none (div_unsigned (by decide) positive.sign)

-- The deviation is undefined or a number from zero up for any values at all; equal whole numbers have
-- an exact mean and leave nothing to square.
theorem statistics_of_any (values : List Float) :
    (ofValues values).count = values.countP (fun v => !v.isNaN) ∧
    ((ofValues values).count = 0 → (ofValues values).mean.isNaN = true) ∧
    ((ofValues values).count < 2 → (ofValues values).std.isNaN = true) ∧
    ((ofValues values).std.isNaN = true ∨ 0.0 ≤ (ofValues values).std) ∧ (ofValues values).std ≠ -0.0 ∧
    (∀ others, Relation.EqvGen Gapped values others → ofValues others = ofValues values) ∧
    ∀ v : ℤ, (∀ x ∈ defined values, x.isFinite = true ∧ value x = v) → |v| * (ofValues values).count ≤ 2 ^ 53 →
      2 ≤ (ofValues values).count → (ofValues values).count ≤ 2 ^ 53 →
        (ofValues values).mean.isFinite = true ∧ value (ofValues values).mean = v ∧ (ofValues values).std = 0.0 := by
  have sign := std_unsigned values
  rw [ofValues_count]
  refine ⟨List.countP_eq_length_filter.symm, ?_, ?_, ?_, ?_, ?_, ?_⟩
  · intro none
    rw [ofValues_none (List.length_eq_zero_iff.mp none)]
    decide
  · intro few
    rw [ofValues_few few]
    decide
  · cases known : (ofValues values).std.isNaN with
    | true => exact .inl rfl
    | false =>
      rw [nonnegative_iff known, signed, sign]
      exact .inr (Int.natCast_nonneg _)
  · intro same
    rw [same] at sign
    exact absurd sign (by decide)
  · intro others steps
    exact (ofValues_congr (gapped_defined steps)).symm
  · intro v same small many few
    have some : defined values ≠ [] := List.ne_nil_of_length_pos (by omega)
    have nearest := ofValues_nearest (Tallies.of_equal same some few small)
    have middle := mean_equal same some nearest
    obtain ⟨bounded, _⟩ := size_value (n := (defined values).length - 1) (by omega)
    have root : (0.0 : Float).sqrt = 0.0 := by decide
    refine ⟨nearest.finite, middle, ?_⟩
    rw [ofValues_std many, sum_zeros (squares_filled some) (squares_equal same nearest.finite middle),
      zero_over bounded (size_large (by omega) (by omega)), root]

-- A number twice around a gap, and squares that are too large.
theorem statistics_of_any_gapped : (ofValues [-3.0, undefined, -3.0]).count = 2 ∧
    value (ofValues [-3.0, undefined, -3.0]).mean = -3 ∧ (ofValues [-3.0, undefined, -3.0]).std = 0.0 ∧
    ofValues [-3.0, -3.0] = ofValues [-3.0, undefined, -3.0] ∧
    ((ofValues [1e300, -1e300]).std.isNaN = true ∨ 0.0 ≤ (ofValues [1e300, -1e300]).std) := by
  obtain ⟨_, _, _, _, _, gaps, equal⟩ := statistics_of_any [-3.0, undefined, -3.0]
  obtain ⟨_, _, _, overflow, _⟩ := statistics_of_any [1e300, -1e300]
  have count : (ofValues [-3.0, undefined, -3.0]).count = 2 := by decide
  have same : ∀ x ∈ defined [-3.0, undefined, -3.0], x.isFinite = true ∧ value x = (-3 : ℤ) := by decide +kernel
  have step : Gapped [-3.0, -3.0] [-3.0, undefined, -3.0] := ⟨[-3.0], undefined, [-3.0], by decide, rfl, rfl⟩
  rw [count] at equal
  obtain ⟨_, middle, none⟩ := equal (-3) same (by decide) le_rfl (by decide)
  exact ⟨count, middle, none, gaps _ (.symm _ _ (.rel _ _ step)), overflow⟩

end BenchCharts.Stats
