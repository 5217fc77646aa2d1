import BenchCharts.Proofs.Aggregation.Ranking
import BenchCharts.Proofs.Plot.Unknown
import Mathlib.Data.List.Forall2

namespace BenchCharts.Layout
open Files Plot

variable {ln : Float → Float} {chart : BarChart} {colours : List Colour} {slot : Slot} {k i j : Nat} {d : Drawing}
  {t after : Tree} {path : String} {events : List Event}

theorem colours_exact : chart.colours = .ok colours ↔
    List.Forall₂ (fun bar colour => Project.colourOf bar.label = .ok colour) chart.bars colours := by
  rw [BarChart.colours, mapM_ok, ← List.forall₂_eq_eq_eq, List.forall₂_map_left_iff, List.forall₂_map_right_iff]

theorem slots_numbered (coloured : chart.colours = .ok colours) :
    (slots chart colours).map (fun slot => (slot.bar, slot.index)) = chart.bars.zipIdx := by
  have covered : chart.bars.length ≤ colours.length := (colours_exact.mp coloured).length_eq.le
  rw [← List.map_fst_zip covered, slots, List.map_map, List.zipIdx_map]
  rfl

theorem slot_coloured (coloured : chart.colours = .ok colours) (member : slot ∈ slots chart colours) :
    Project.colourOf slot.bar.label = .ok slot.colour := by
  obtain ⟨⟨⟨bar, colour⟩, index⟩, listed, rfl⟩ := List.mem_map.mp member
  exact (List.forall₂_iff_zip.mp (colours_exact.mp coloured)).2 (List.fst_mem_of_mem_zipIdx listed)

theorem slots_bars (coloured : chart.colours = .ok colours) : (slots chart colours).map (·.bar) = chart.bars := by
  rw [← List.zipIdx_map_fst 0 chart.bars, ← slots_numbered coloured, List.map_map]
  rfl

theorem visible_bar (coloured : chart.colours = .ok colours) (member : slot ∈ visible chart colours) :
    slot.bar ∈ chart.bars ∧ slot.bar.stats.mean.isFinite = true := by
  obtain ⟨listed, finite⟩ := List.mem_filter.mp member
  rw [← slots_bars coloured]
  exact ⟨List.mem_map_of_mem listed, finite⟩

def numbered (chart : BarChart) : List (Bar × Nat) := chart.bars.zipIdx.filter (·.1.stats.mean.isFinite)

theorem visible_numbered (coloured : chart.colours = .ok colours) :
    (visible chart colours).map (fun slot => (slot.bar, slot.index)) = numbered chart := by
  rw [numbered, ← slots_numbered coloured, List.filter_map]
  rfl

theorem forall_visible {β : Type} {R : Bar × Nat → β → Prop} (coloured : chart.colours = .ok colours) (f : Slot → β)
    (each : ∀ slot ∈ visible chart colours, R (slot.bar, slot.index) (f slot)) :
    List.Forall₂ R (numbered chart) ((visible chart colours).map f) := by
  rw [← visible_numbered coloured, List.forall₂_map_left_iff, List.forall₂_map_right_iff, List.forall₂_same]
  exact each

def Centred (x : Int) (e : ErrorBar) : Prop :=
  e.x = x ∧ ∃ low high, e.lines =
    [⟨x - capHalf, low, x + capHalf, low⟩, ⟨x - capHalf, high, x + capHalf, high⟩, ⟨x, low, x, high⟩]

-- What is drawn for each bar of finite mean, and nothing else beside the background.
structure InPlace (chart : BarChart) (d : Drawing) : Prop where
  background : d.rects.head? = some ⟨0, 0, 640, 480, Drawing.white⟩
  rects : List.Forall₂ (fun (entry : Bar × Nat) r =>
    r.x = xPixel chart.bars.length entry.2 + barMargin ∧
    r.x + r.width = xPixel chart.bars.length (entry.2 + 1) - barMargin ∧
    Project.colourOf entry.1.label = .ok r.fill) (numbered chart) d.rects.tail
  values : List.Forall₂ (fun (entry : Bar × Nat) v =>
    v.x = xCentre chart.bars.length entry.2 ∧
    v.text = chart.valueLabel.format entry.1.stats.mean) (numbered chart) d.values
  errorBars : if chart.errorBars
    then List.Forall₂ (fun (entry : Bar × Nat) e => Centred (xCentre chart.bars.length entry.2) e) (numbered chart) d.errorBars
    else d.errorBars = []

theorem drawBy_inPlace (coloured : chart.colours = .ok colours) : InPlace chart (drawBy ln chart colours) where
  background := rfl
  rects := by
    apply forall_visible coloured
    intro slot member
    refine ⟨rfl, ?_, slot_coloured coloured (List.mem_of_mem_filter member)⟩
    simp only [rect]
    omega
  values := forall_visible coloured _ fun slot _ => ⟨rfl, rfl⟩
  errorBars := by
    cases shown : chart.errorBars with
    | true =>
      simp only [drawBy, shown, if_true]
      exact forall_visible coloured _ fun slot _ => ⟨rfl, _, _, rfl⟩
    | false => simp [drawBy, shown]

-- With at most nine bars every segment has room for a bar between its margins, and its middle inside.
theorem segments_wide : ∀ k < 10, ∀ i < k, xPixel k i + 2 * barMargin < xPixel k (i + 1) ∧
    xPixel k i ≤ xCentre k i ∧ xCentre k i ≤ xPixel k (i + 1) := by decide +kernel

theorem segment_wide (few : k ≤ 9) (inside : i < k) : xPixel k i + 2 * barMargin < xPixel k (i + 1) :=
  (segments_wide k (by omega) i inside).1

theorem xPixel_mono (few : k ≤ 9) (less : i ≤ j) (inside : j ≤ k) : xPixel k i ≤ xPixel k j := by
  induction j, less using Nat.le_induction with
  | base => exact le_rfl
  | succ j _ ih =>
    have step := segment_wide few (Nat.lt_of_succ_le inside)
    have margin : barMargin = 8 := rfl
    have before := ih (Nat.le_of_succ_le inside)
    omega

theorem xCentre_inside (few : k ≤ 9) (inside : i < k) : xPixel k i ≤ xCentre k i ∧ xCentre k i ≤ xPixel k (i + 1) :=
  (segments_wide k (by omega) i inside).2

theorem slot_inside (coloured : chart.colours = .ok colours) (member : slot ∈ visible chart colours) :
    slot.index < chart.bars.length := by
  have listed : (slot.bar, slot.index) ∈ chart.bars.zipIdx := by
    rw [← slots_numbered coloured]
    exact List.mem_map_of_mem (List.mem_of_mem_filter member)
  simpa using List.snd_lt_of_mem_zipIdx listed

theorem visible_ascending (coloured : chart.colours = .ok colours) :
    (visible chart colours).Pairwise fun a b => a.index < b.index := by
  have numbers : ((slots chart colours).map (·.index)).Pairwise (· < ·) := by
    have same : (slots chart colours).map (·.index) = List.range' 0 chart.bars.length := by
      rw [← List.zipIdx_map_snd, ← slots_numbered coloured, List.map_map]
      rfl
    rw [same]
    exact List.pairwise_lt_range'
  exact (List.pairwise_map.mp numbers).sublist List.filter_sublist

-- Labels that all have a colour and do not repeat are names of different projects.
theorem labels_few (coloured : chart.colours = .ok colours) (unique : (chart.bars.map (·.label)).Nodup) :
    chart.bars.length ≤ 9 := by
  have named : chart.bars.map (·.label) ⊆ Project.all.map (·.name) := by
    intro label listed
    obtain ⟨bar, member, rfl⟩ := List.mem_map.mp listed
    have mapped : Project.colourOf bar.label ∈ colours.map .ok := by
      rw [← mapM_ok.mp coloured]
      exact List.mem_map_of_mem member
    obtain ⟨colour, _, found⟩ := List.mem_map.mp mapped
    obtain ⟨project, known, same⟩ := Project.colourOf_ok.mp ⟨colour, found.symm⟩
    exact List.mem_map.mpr ⟨project, known, same⟩
  simpa [Project.all] using unique.length_le_of_subset named

def Beside (k i : Nat) (left right : Int) : Prop := right ≤ xPixel k i ∨ xPixel k (i + 1) ≤ left

-- A drawing in which no bar gets in the way of another, and the segments of undefined bars are empty.
structure Apart (chart : BarChart) (d : Drawing) : Prop where
  few : chart.bars.length ≤ 9
  wide : ∀ r ∈ d.rects.tail, 0 < r.width
  apart : d.rects.tail.Pairwise fun r s => r.x + r.width ≤ s.x
  empty : ∀ entry ∈ chart.bars.zipIdx, entry.1.stats.mean.isFinite = false →
    (∀ r ∈ d.rects.tail, Beside chart.bars.length entry.2 r.x (r.x + r.width)) ∧
    (∀ v ∈ d.values, Beside chart.bars.length entry.2 v.x v.x) ∧
    ∀ e ∈ d.errorBars, Beside chart.bars.length entry.2 e.x e.x

theorem visible_elsewhere (coloured : chart.colours = .ok colours) (member : slot ∈ visible chart colours)
    {entry : Bar × Nat} (listed : entry ∈ chart.bars.zipIdx) (undefined : entry.1.stats.mean.isFinite = false) :
    slot.index ≠ entry.2 := by
  obtain ⟨shown, finite⟩ := List.mem_filter.mp member
  have here : (slot.bar, slot.index) ∈ chart.bars.zipIdx := by
    rw [← slots_numbered coloured]
    exact List.mem_map_of_mem shown
  intro same
  have one := List.mem_zipIdx_iff_getElem?.mp here
  have two := List.mem_zipIdx_iff_getElem?.mp listed
  rw [← same, one] at two
  rw [← Option.some.inj two, finite] at undefined
  cases undefined

theorem beside_inner (few : k ≤ 9) (one : i < k) (two : j < k) (apart : j ≠ i) {left right : Int}
    (low : xPixel k j ≤ left) (high : right ≤ xPixel k (j + 1)) : Beside k i left right := by
  rcases Nat.lt_or_gt_of_ne apart with less | more
  · exact .inl (high.trans (xPixel_mono few less one.le))
  · exact .inr ((xPixel_mono few more two.le).trans low)

theorem drawBy_apart (coloured : chart.colours = .ok colours) (unique : (chart.bars.map (·.label)).Nodup) :
    Apart chart (drawBy ln chart colours) := by
  have few := labels_few coloured unique
  have margin : barMargin = 8 := rfl
  have span (slot : Slot) : (rect ln chart slot).x + (rect ln chart slot).width =
      xPixel chart.bars.length (slot.index + 1) - barMargin := by
    simp only [rect]
    omega
  have start (slot : Slot) : (rect ln chart slot).x = xPixel chart.bars.length slot.index + barMargin := rfl
  refine ⟨few, ?_, ?_, ?_⟩
  · intro r member
    obtain ⟨slot, shown, rfl⟩ := List.mem_map.mp member
    have wide := segment_wide few (slot_inside coloured shown)
    have left := start slot
    have right := span slot
    omega
  · refine List.pairwise_map.mpr ((visible_ascending coloured).imp_of_mem ?_)
    intro a b one two less
    have order := xPixel_mono few (Nat.succ_le_of_lt less) (slot_inside coloured two).le
    rw [Nat.succ_eq_add_one] at order
    have left := start b
    have right := span a
    omega
  · intro entry listed undefined
    have inside : entry.2 < chart.bars.length := by simpa using List.snd_lt_of_mem_zipIdx listed
    have free (slot : Slot) (shown : slot ∈ visible chart colours) {left right : Int}
        (low : xPixel chart.bars.length slot.index ≤ left) (high : right ≤ xPixel chart.bars.length (slot.index + 1)) :
        Beside chart.bars.length entry.2 left right :=
      beside_inner few inside (slot_inside coloured shown) (visible_elsewhere coloured shown listed undefined) low high
    have middle (slot : Slot) (shown : slot ∈ visible chart colours) :
        Beside chart.bars.length entry.2 (xCentre chart.bars.length slot.index) (xCentre chart.bars.length slot.index) := by
      obtain ⟨low, high⟩ := xCentre_inside few (slot_inside coloured shown)
      exact free slot shown low high
    refine ⟨?_, ?_, ?_⟩
    · intro r member
      obtain ⟨slot, shown, rfl⟩ := List.mem_map.mp member
      have left := start slot
      have right := span slot
      exact free slot shown (by omega) (by omega)
    · intro v member
      obtain ⟨slot, shown, rfl⟩ := List.mem_map.mp member
      exact middle slot shown
    · intro e member
      simp only [drawBy] at member
      split at member
      · obtain ⟨slot, shown, rfl⟩ := List.mem_map.mp member
        exact middle slot shown
      · cases member

theorem rendered (drawn : chart.renderBy ln path t = (after, ⟨events, .ok ()⟩)) (bars : chart.bars ≠ []) :
    ∃ colours, chart.colours = .ok colours ∧ Holds after path (drawBy ln chart colours) := by
  rcases renderBy_exact.mp drawn with ⟨none, _⟩ | ⟨_, _, colours, coloured, wrote⟩
  · exact absurd none bars
  · exact ⟨colours, coloured, Tree.write_find wrote⟩

theorem bars_in_place (drawn : chart.render path t = (after, ⟨events, .ok ()⟩)) (bars : chart.bars ≠ []) :
    ∃ d, Holds after path d ∧ InPlace chart d ∧ ∀ a table s metric, Aggregation.summarise a table = .ok s →
      s.ranked metric = .ok chart.bars → Apart chart d := by
  obtain ⟨colours, coloured, holds⟩ := rendered drawn bars
  refine ⟨_, holds, drawBy_inPlace coloured, ?_⟩
  intro a table s metric ran ranked
  have unique := (Summary.ranked_labels ranked).nodup_iff.mpr (Aggregation.labels_unique ran)
  exact drawBy_apart coloured unique

-- An infinite mean before two numbers, and a group without values behind them.
def gapTable : Table where
  columns := [⟨"name", .text ["cheerpj", "gwt", "jvm", "teavm"]⟩,
    ⟨"bytes", .numeric [Number.ofSize false Number.infinityBits, 5.0, 3.0, Number.undefined]⟩]
  rows := 4
  aligned := by simp [Cells.length]

def gapAggregation : Aggregation := .of "name" ["bytes"]

def gapBars : List Bar :=
  [⟨"CheerpJ", .ofValues [Number.ofSize false Number.infinityBits]⟩, ⟨"GWT", .ofValues [5.0]⟩,
    ⟨"JVM", .ofValues [3.0]⟩, ⟨"TeaVM", .ofValues [Number.undefined]⟩]

def summaryOf (metric : String) (bars : List Bar) : Summary := ⟨[metric], bars.map fun bar => (bar.label, [bar.stats])⟩

-- Bars in order already are left alone by the sort.
theorem ranked_summaryOf (metric : String) {bars : List Bar} (order : bars.Pairwise fun a b => b.stats.rank ≤ a.stats.rank) :
    (summaryOf metric bars).ranked metric = .ok bars := by
  have listed : Aggregation.groupBars (summaryOf metric bars) 0 = bars := by
    simp [Aggregation.groupBars, summaryOf, Function.comp_def]
  refine Aggregation.ranked_ok.mpr ⟨0, by simp [summaryOf, List.idxOf?, List.findIdx?_cons], ?_⟩
  rw [listed, List.mergeSort_of_pairwise (order.imp decide_eq_true)]

def gapSummary : Summary := summaryOf "bytes" gapBars

def gapChart : BarChart := .of "size" "Size (bytes)" gapBars

theorem gap_summarised : gapAggregation.summarise gapTable = .ok gapSummary := by
  have grouped : gapAggregation.group gapTable =
      .ok ⟨gapTable, [("CheerpJ", [0]), ("GWT", [1]), ("JVM", [2]), ("TeaVM", [3])],
        [#[Number.ofSize false Number.infinityBits / 1.0, 5.0 / 1.0, 3.0 / 1.0, Number.undefined / 1.0]]⟩ := rfl
  have scaled : Number.ofSize false Number.infinityBits / 1.0 = Number.ofSize false Number.infinityBits ∧
      (5.0 / 1.0 : Float) = 5.0 ∧ (3.0 / 1.0 : Float) = 3.0 ∧ Number.undefined / 1.0 = Number.undefined := by
    decide +kernel
  simp only [scaled] at grouped
  have ran : gapAggregation.summarise gapTable = .ok ⟨["bytes"], Aggregation.collect _ _⟩ :=
    bind_ok.mpr ⟨_, bind_ok.mpr ⟨_, grouped, rfl⟩, rfl⟩
  rw [ran, Aggregation.collect, List.mergeSort_of_pairwise (by decide)]
  rfl

theorem gap_ranked : gapSummary.ranked "bytes" = .ok gapBars := ranked_summaryOf "bytes" (by decide)

theorem bars_in_place_gap : ∃ after events d, gapChart.render "size.svg" .empty = (after, ⟨events, .ok ()⟩) ∧
    gapChart.bars ≠ [] ∧ Holds after "size.svg" d ∧ InPlace gapChart d ∧
    gapSummary.ranked "bytes" = .ok gapChart.bars ∧ Apart gapChart d ∧ (numbered gapChart).map (·.2) = [1, 2] := by
  have gave : (gapChart.render "size.svg" .empty).2.result.toOption = some () := by decide +kernel
  obtain ⟨d, holds, placed, apart⟩ := bars_in_place (Work.ran_ok gave) nofun
  exact ⟨_, _, d, Work.ran_ok gave, nofun, holds, placed, gap_ranked,
    apart gapAggregation gapTable gapSummary "bytes" gap_summarised gap_ranked, by decide⟩

end BenchCharts.Layout
