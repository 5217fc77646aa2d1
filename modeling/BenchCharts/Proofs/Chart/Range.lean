import BenchCharts.Chart.Basic
import BenchCharts.Proofs.Number.Monotone

namespace BenchCharts.BarChart
open Number

variable {c : BarChart} {bar : Bar} {pick : Float → Float → Float} {key : Float → Int} {values : List Float} {v w : Float}

structure Measured (c : BarChart) : Prop where
  headroom : c.headroom.isFinite = true
  room : 1.0 ≤ c.headroom
  deviations : ∀ bar ∈ c.bars, bar.stats.std.isNaN = true ∨ bar.stats.std.isInf = true ∨ 0.0 ≤ bar.stats.std
  reach : ∀ bar ∈ c.bars, bar.stats.mean.isFinite = true → (bar.stats.mean + c.error bar).isFinite = true

structure Covers (c : BarChart) (range : Float × Float) : Prop where
  defined : range.1.isNaN = false ∧ range.2.isNaN = false
  start : 0.0 ≤ range.1
  order : range.1 < range.2
  bars : ∀ bar ∈ c.bars, bar.stats.mean.isFinite = true → 0.0 < bar.stats.mean →
    range.1 < bar.stats.mean ∧ bar.stats.mean ≤ bar.stats.mean + c.error bar ∧
      bar.stats.mean + c.error bar ≤ range.2
  linear : c.axis = .linear → range.1 = 0.0

-- A choice of the value with the larger key, the first where the keys agree.
def PicksBy (pick : Float → Float → Float) (key : Float → Int) : Prop :=
  ∀ x y, Positive x → Positive y → pick x y = if key x < key y then y else x

theorem larger_picks : PicksBy larger signed := by
  intro x y one two
  exact larger_exact (defined_of_finite one.finite) (defined_of_finite two.finite)

theorem smaller_picks : PicksBy smaller (-signed ·) := by
  intro x y one two
  have first := defined_of_finite one.finite
  have second := defined_of_finite two.finite
  simp only [smaller, first, second, lt_iff_signed second first, Int.neg_lt_neg_iff]
  rfl

theorem PicksBy.fold (picks : PicksBy pick key) (start : Float) (positive : ∀ v ∈ start :: values, Positive v) :
    values.foldl pick start ∈ start :: values ∧ ∀ v ∈ start :: values, key v ≤ key (values.foldl pick start) := by
  induction values generalizing start with
  | nil => simp
  | cons value rest ih =>
    have chosen := picks start value (positive start (by simp)) (positive value (by simp))
    have above : key start ≤ key (pick start value) ∧ key value ≤ key (pick start value) := by
      rw [chosen]
      split <;> omega
    have inside : ∀ v ∈ pick start value :: rest, v ∈ start :: value :: rest := by
      intro v member
      rcases List.mem_cons.mp member with rfl | old
      · rw [chosen]
        split <;> simp
      · simp [old]
    obtain ⟨member, bound⟩ := ih (pick start value) fun v known => positive v (inside v known)
    refine ⟨inside _ member, ?_⟩
    have base := bound _ List.mem_cons_self
    intro v known
    rcases List.mem_cons.mp known with rfl | later
    · exact above.1.trans base
    rcases List.mem_cons.mp later with rfl | old
    · exact above.2.trans base
    · exact bound v (List.mem_cons_of_mem _ old)

theorem mem_shown : (v ∈ values.filter fun v => v.isFinite && 0.0 < v) ↔ v ∈ values ∧ Positive v := by
  rw [List.mem_filter, positive_exact]
  simp

theorem PicksBy.extreme (picks : PicksBy pick key) (values : List Float) (fallback : Float) :
    (∀ v ∈ values, Positive v → key v ≤ key ((extreme? pick values).getD fallback)) ∧
      ((extreme? pick values).getD fallback ∈ values ∧ Positive ((extreme? pick values).getD fallback) ∨
        (extreme? pick values).getD fallback = fallback) := by
  unfold extreme?
  cases shown : values.filter fun v => v.isFinite && 0.0 < v with
  | nil =>
    refine ⟨?_, .inr rfl⟩
    intro v member positive
    have found := mem_shown.mpr ⟨member, positive⟩
    simp [shown] at found
  | cons start rest =>
    have among (v : Float) : v ∈ start :: rest ↔ v ∈ values ∧ Positive v := by rw [← shown, mem_shown]
    obtain ⟨member, bound⟩ := picks.fold start fun v known => ((among v).mp known).2
    refine ⟨?_, .inl ((among _).mp member)⟩
    intro v known positive
    exact bound v ((among v).mpr ⟨known, positive⟩)

theorem Measured.error (measured : Measured c) (member : bar ∈ c.bars) :
    (c.error bar).isFinite = true ∧ 0.0 ≤ c.error bar := by
  unfold BarChart.error
  by_cases shown : (c.errorBars && bar.stats.std.isFinite) = true
  · have finite : bar.stats.std.isFinite = true := (Bool.and_eq_true_iff.mp shown).2
    rw [if_pos shown]
    refine ⟨finite, ?_⟩
    rcases measured.deviations bar member with undefined | infinite | more
    · rw [defined_of_finite finite] at undefined
      cases undefined
    · simp [infinite_unbounded infinite] at finite
    · exact more
  · rw [if_neg shown]
    decide

theorem Measured.grown (measured : Measured c) (member : bar ∈ c.bars) (positive : Positive bar.stats.mean) :
    bar.stats.mean ≤ bar.stats.mean + c.error bar ∧ Positive (bar.stats.mean + c.error bar) := by
  obtain ⟨finite, more⟩ := measured.error member
  have grown := le_sum positive.finite finite more
  exact ⟨grown, positive.of_le (measured.reach bar member positive.finite) grown⟩

theorem top_positive (c : BarChart) : Positive c.top := by
  rcases (larger_picks.extreme (c.bars.map fun bar => bar.stats.mean + c.error bar) 1.0).2 with found | none
  · exact found.2
  · rw [top, none]
    exact positive_exact.mpr (by decide)

theorem le_top (member : bar ∈ c.bars) (positive : Positive (bar.stats.mean + c.error bar)) :
    bar.stats.mean + c.error bar ≤ c.top := by
  have bound := (larger_picks.extreme (c.bars.map fun bar => bar.stats.mean + c.error bar) 1.0).1
  rw [le_iff_signed (defined_of_finite positive.finite) (defined_of_finite c.top_positive.finite)]
  exact bound _ (List.mem_map_of_mem member) positive

theorem bottom_positive (c : BarChart) : Positive c.bottom := by
  rcases (smaller_picks.extreme (c.bars.map fun bar => bar.stats.mean) c.top).2 with found | none
  · exact found.2
  · rw [bottom, none]
    exact c.top_positive

theorem bottom_le (member : bar ∈ c.bars) (positive : Positive bar.stats.mean) : c.bottom ≤ bar.stats.mean := by
  have bound := (smaller_picks.extreme (c.bars.map fun bar => bar.stats.mean) c.top).1
  rw [le_iff_signed (defined_of_finite c.bottom_positive.finite) (defined_of_finite positive.finite)]
  exact Int.neg_le_neg_iff.mp (bound _ (List.mem_map_of_mem member) positive)

-- The least mean is below the end of its own error bar, and without one both ends are the same.
theorem Measured.bottom_top (measured : Measured c) : c.bottom ≤ c.top := by
  rcases (smaller_picks.extreme (c.bars.map fun bar => bar.stats.mean) c.top).2 with ⟨found, positive⟩ | none
  · obtain ⟨bar, member, same⟩ := List.mem_map.mp found
    rw [← same] at positive
    obtain ⟨grown, above⟩ := measured.grown member positive
    have highest := le_chain grown (le_top member above)
    rwa [bottom, ← same]
  · rw [bottom, none]
    exact le_self (defined_of_finite c.top_positive.finite)

theorem Measured.covers (measured : Measured c) {low : Float} (start : 0.0 ≤ low) (below : low < c.bottom)
    (linear : c.axis = .linear → low = 0.0) : Covers c (low, c.top * c.headroom) := by
  have room := c.top_positive.le_mul measured.headroom measured.room
  refine ⟨⟨(lt_exact.mp below).1, (le_exact.mp room).2.1⟩, start, lt_chain below (le_chain measured.bottom_top room), ?_, linear⟩
  intro bar member finite more
  have positive := positive_exact.mpr ⟨finite, more⟩
  obtain ⟨grown, above⟩ := measured.grown member positive
  exact ⟨lt_chain below (bottom_le member positive), grown, le_chain (le_top member above) room⟩

theorem yRange_covers (c : BarChart) (measured : Measured c) : Covers c c.yRange := by
  have positive := c.bottom_positive
  unfold yRange
  cases axis : c.axis with
  | linear => exact measured.covers (by decide +kernel) (positive_exact.mp positive).2 fun _ => rfl
  | log => exact measured.covers positive.half_lt.1 positive.half_lt.2 fun linear => by simp [axis] at linear

-- The least number, which has no half, beside bars that are undefined, infinite or below zero, one of
-- these with an error bar that reaches above it.
def steepBars : List Bar :=
  [⟨"a", ⟨5e-324, undefined, 1⟩⟩, ⟨"b", ⟨undefined, undefined, 0⟩⟩, ⟨"c", ⟨1.5e308, 0.5, 2⟩⟩,
    ⟨"d", ⟨ofSize true infinityBits, 1.0, 2⟩⟩, ⟨"e", ⟨-2.0, 3.5, 2⟩⟩, ⟨"f", ⟨0.0, ofSize false infinityBits, 2⟩⟩]

def steepChart : BarChart := (of "steep" "Time (s)" steepBars).logScale

theorem steep_measured : Measured steepChart :=
  ⟨by decide +kernel, by decide +kernel, by decide +kernel, by decide +kernel⟩

theorem yRange_covers_steep : Measured steepChart ∧ Covers steepChart steepChart.yRange ∧ steepChart.yRange.1 = 0.0 :=
  ⟨steep_measured, yRange_covers steepChart steep_measured, by decide +kernel⟩

end BenchCharts.BarChart
