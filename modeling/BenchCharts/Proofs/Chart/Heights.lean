import BenchCharts.Proofs.Chart.Scale
import BenchCharts.Proofs.Chart.Slots

namespace BenchCharts.BarChart
open Number
variable {c : BarChart}

theorem start_below (c : BarChart) : 0.0 ≤ c.yRange.1 ∧ c.yRange.1 < c.bottom := by
  have positive := c.bottom_positive
  unfold yRange
  cases c.axis with
  | linear =>
    have zero : (0.0 : Float) ≤ 0.0 := by decide
    exact ⟨zero, (positive_exact.mp positive).2⟩
  | log => exact positive.half_lt

theorem start_finite (c : BarChart) : c.yRange.1.isFinite = true := by
  obtain ⟨low, high⟩ := c.start_below
  exact finite_between low (le_of_less high) (by decide) c.bottom_positive.finite

theorem Measured.ordered (measured : Measured c) : c.yRange.1 < c.yRange.2 := by
  have room := c.top_positive.le_mul measured.headroom measured.room
  have stop : c.yRange.2 = c.top * c.headroom := by
    unfold yRange
    cases c.axis <;> rfl
  rw [stop]
  exact lt_chain c.start_below.2 (le_chain measured.bottom_top room)

-- The least number has no half, so an axis must not start from it.
def Halved (c : BarChart) : Prop := c.axis = .log → 5e-324 < c.bottom

theorem Halved.raised (halved : Halved c) (log : c.axis = .log) : 0.0 < c.yRange.1 := by
  simp only [yRange, log]
  exact half_positive c.bottom_positive (halved log)

end BenchCharts.BarChart

namespace BenchCharts.Layout
open Number BarChart Files

variable {ln : Float → Float} {chart : BarChart} {bar other : Bar} {colours : List Colour} {d : Drawing} {v w : Float}
  {slot next : Slot} {t after : Tree} {path : String} {events : List Event}

def lowEnd (chart : BarChart) (bar : Bar) : Float := larger (drawnMean chart bar - chart.error bar) chart.yRange.1
def highEnd (chart : BarChart) (bar : Bar) : Float := drawnMean chart bar + chart.error bar

structure Enclosed (ln : Float → Float) (chart : BarChart) (bar : Bar) (e : ErrorBar) : Prop where
  dot : e.y = yPixel ln chart (drawnMean chart bar)
  caps : e.lines = [
    ⟨e.x - capHalf, yPixel ln chart (lowEnd chart bar), e.x + capHalf, yPixel ln chart (lowEnd chart bar)⟩,
    ⟨e.x - capHalf, yPixel ln chart (highEnd chart bar), e.x + capHalf, yPixel ln chart (highEnd chart bar)⟩,
    ⟨e.x, yPixel ln chart (lowEnd chart bar), e.x, yPixel ln chart (highEnd chart bar)⟩]
  inside : top chart ≤ yPixel ln chart (highEnd chart bar)
  above : yPixel ln chart (highEnd chart bar) ≤ e.y
  below : e.y ≤ yPixel ln chart (lowEnd chart bar)
  standing : yPixel ln chart (lowEnd chart bar) ≤ yPixel ln chart chart.yRange.1
  base : yPixel ln chart chart.yRange.1 ≤ bottom

structure ToScale (ln : Float → Float) (chart : BarChart) (d : Drawing) : Prop where
  rects : List.Forall₂ (fun (entry : Bar × Nat) r => r.y = yPixel ln chart (drawnMean chart entry.1) ∧
    r.y + r.height = yPixel ln chart chart.yRange.1) (numbered chart) d.rects.tail
  errorBars : chart.errorBars = true →
    List.Forall₂ (fun (entry : Bar × Nat) e => Enclosed ln chart entry.1 e) (numbered chart) d.errorBars
  heights : ∀ p ∈ (numbered chart).zip d.rects.tail, ∀ q ∈ (numbered chart).zip d.rects.tail,
    p.1.1.stats.mean ≤ q.1.1.stats.mean → p.2.height ≤ q.2.height

theorem yPixel_inside (ln : Float → Float) (chart : BarChart) (v : Float) :
    top chart ≤ yPixel ln chart v ∧ yPixel ln chart v ≤ bottom := by
  have area : top chart ≤ bottom := by
    unfold top
    split <;> decide
  unfold yPixel
  dsimp only
  omega

theorem le_drawnMean (chart : BarChart) (finite : bar.stats.mean.isFinite = true) :
    bar.stats.mean ≤ drawnMean chart bar ∧ chart.yRange.1 ≤ drawnMean chart bar :=
  le_larger (defined_of_finite finite) (defined_of_finite chart.start_finite)

theorem drawnMean_mono (finite : other.stats.mean.isFinite = true) (less : bar.stats.mean ≤ other.stats.mean) :
    drawnMean chart bar ≤ drawnMean chart other := by
  obtain ⟨reached, start⟩ := le_drawnMean chart finite
  exact larger_le (le_chain less reached) start

theorem drawnMean_finite (chart : BarChart) (finite : bar.stats.mean.isFinite = true) : (drawnMean chart bar).isFinite = true := by
  rw [drawnMean, larger_exact (defined_of_finite finite) (defined_of_finite chart.start_finite)]
  split
  · exact chart.start_finite
  · exact finite

theorem mean_le (one : bar.stats.mean.isFinite = true) (two : other.stats.mean.isFinite = true)
    (ranks : other.stats.rank ≤ bar.stats.rank) : other.stats.mean ≤ bar.stats.mean := by
  have first := defined_of_finite one
  have second := defined_of_finite two
  rw [le_iff_signed second first]
  rcases (Bar.rank_le_iff.mp ranks).2.1 first second with less | ⟨same, _⟩
  · exact ((lt_iff_signed second first).mp less).le
  · exact ((beq_iff_signed second first).mp same).le

section Scaled

variable (rising : Rising ln) (measured : Measured chart) (halved : Halved chart)
include rising measured halved

theorem scaled_antitone (start : chart.yRange.1 ≤ v) (less : v ≤ w) : yPixel ln chart w ≤ yPixel ln chart v :=
  yPixel_antitone rising measured.ordered halved.raised start less

theorem mean_above (finite : bar.stats.mean.isFinite = true) :
    yPixel ln chart (drawnMean chart bar) ≤ yPixel ln chart chart.yRange.1 := by
  have start := le_self (defined_of_finite chart.start_finite)
  exact scaled_antitone rising measured halved start (le_drawnMean chart finite).2

theorem rect_scaled (finite : slot.bar.stats.mean.isFinite = true) :
    (rect ln chart slot).y = yPixel ln chart (drawnMean chart slot.bar) ∧
      (rect ln chart slot).y + (rect ln chart slot).height = yPixel ln chart chart.yRange.1 := by
  have above := mean_above rising measured halved finite
  simp only [rect]
  omega

theorem rect_taller (one : slot.bar.stats.mean.isFinite = true) (two : next.bar.stats.mean.isFinite = true)
    (less : slot.bar.stats.mean ≤ next.bar.stats.mean) : (rect ln chart slot).height ≤ (rect ln chart next).height := by
  have first := rect_scaled rising measured halved one
  have second := rect_scaled rising measured halved two
  have higher := scaled_antitone rising measured halved (le_drawnMean chart one).2 (drawnMean_mono two less)
  omega

theorem errorBar_enclosed (member : slot.bar ∈ chart.bars) (finite : slot.bar.stats.mean.isFinite = true) :
    Enclosed ln chart slot.bar (errorBar ln chart slot) := by
  obtain ⟨length, more⟩ := measured.error member
  have mean := drawnMean_finite chart finite
  have start := (le_drawnMean chart finite).2
  have sum : drawnMean chart slot.bar ≤ highEnd chart slot.bar := le_sum mean length more
  have difference := difference_le mean length more
  have cut : lowEnd chart slot.bar ≤ drawnMean chart slot.bar := larger_le difference start
  have defined := defined_of_finite chart.start_finite
  have kept : chart.yRange.1 ≤ lowEnd chart slot.bar := (le_larger (le_exact.mp difference).1 defined).2
  exact {
    dot := rfl
    caps := rfl
    inside := (yPixel_inside ln chart _).1
    above := scaled_antitone rising measured halved start sum
    below := scaled_antitone rising measured halved kept cut
    standing := scaled_antitone rising measured halved (le_self defined) kept
    base := (yPixel_inside ln chart _).2 }

theorem drawBy_toScale (coloured : chart.colours = .ok colours) : ToScale ln chart (drawBy ln chart colours) where
  rects := by
    apply forall_visible coloured
    intro slot member
    exact rect_scaled rising measured halved (visible_bar coloured member).2
  errorBars := by
    intro shown
    simp only [drawBy, shown, if_true]
    apply forall_visible coloured
    intro slot member
    obtain ⟨listed, finite⟩ := visible_bar coloured member
    exact errorBar_enclosed rising measured halved listed finite
  heights := by
    have pairs : (numbered chart).zip (drawBy ln chart colours).rects.tail =
        (visible chart colours).map fun slot => ((slot.bar, slot.index), rect ln chart slot) := by
      rw [← visible_numbered coloured]
      exact List.zip_map'
    rw [pairs]
    intro p one q two less
    obtain ⟨slot, member, rfl⟩ := List.mem_map.mp one
    obtain ⟨next, other, rfl⟩ := List.mem_map.mp two
    exact rect_taller rising measured halved (visible_bar coloured member).2 (visible_bar coloured other).2 less

theorem drawBy_descending (coloured : chart.colours = .ok colours) {s : Summary} {metric : String}
    (ranked : s.ranked metric = .ok chart.bars) :
    ((drawBy ln chart colours).rects.tail.map (·.height)).Pairwise (· ≥ ·) := by
  have order : chart.bars.Pairwise fun a b => b.stats.rank ≤ a.stats.rank := by
    obtain ⟨i, _, sorted⟩ := Aggregation.ranked_ok.mp ranked
    rw [sorted]
    exact sorted_descending _ _
  rw [← slots_bars coloured, List.pairwise_map] at order
  refine List.pairwise_map.mpr (List.pairwise_map.mpr ((order.sublist List.filter_sublist).imp_of_mem ?_))
  intro slot next one two ranks
  have first := (visible_bar coloured one).2
  have second := (visible_bar coloured two).2
  exact rect_taller rising measured halved second first (mean_le first second ranks)

end Scaled

theorem bars_to_scale (rising : Rising ln) (measured : Measured chart) (halved : Halved chart)
    (drawn : chart.renderBy ln path t = (after, ⟨events, .ok ()⟩)) (bars : chart.bars ≠ []) :
    ∃ d, Plot.Holds after path d ∧ ToScale ln chart d ∧ ∀ (s : Summary) metric, s.ranked metric = .ok chart.bars →
      (d.rects.tail.map (·.height)).Pairwise (· ≥ ·) := by
  obtain ⟨colours, coloured, holds⟩ := rendered drawn bars
  refine ⟨_, holds, drawBy_toScale rising measured halved coloured, ?_⟩
  intro s metric ranked
  exact drawBy_descending rising measured halved coloured ranked

-- A function that takes each value from its place on.
def stepped : List (Float × Float) → Float → Float → Float
  | [], start, _ => start
  | (place, next) :: steps, start, x => if x < place then start else stepped steps next x

theorem le_stepped {steps : List (Float × Float)} {start : Float} (x : Float)
    (ascending : (start :: steps.map (·.2)).IsChain (· ≤ ·)) (defined : start ≤ start) : start ≤ stepped steps start x := by
  induction steps generalizing start with
  | nil => exact defined
  | cons step steps ih =>
    obtain ⟨less, rest⟩ := List.isChain_cons_cons.mp ascending
    rw [stepped]
    split
    · exact defined
    · have next := (le_exact.mp less).2.1
      exact le_chain less (ih rest (le_self next))

theorem stepped_mono {steps : List (Float × Float)} {start : Float}
    (ascending : (start :: steps.map (·.2)).IsChain (· ≤ ·)) (defined : start ≤ start) (less : v ≤ w) :
    stepped steps start v ≤ stepped steps start w := by
  induction steps generalizing start with
  | nil => exact defined
  | cons step steps ih =>
    obtain ⟨first, rest⟩ := List.isChain_cons_cons.mp ascending
    have same := le_self (le_exact.mp first).2.1
    rw [stepped, stepped]
    split_ifs with low high high
    · exact defined
    · exact le_chain first (le_stepped w rest same)
    · obtain ⟨one, _, order⟩ := le_exact.mp less
      obtain ⟨_, two, apart⟩ := lt_exact.mp high
      exact absurd (lt_exact.mpr ⟨one, two, order.trans_lt apart⟩) low
    · exact ih rest same

-- The natural logarithm at the numbers that the charts below ask for.
def tabled : Float → Float :=
  stepped [(5e-324, -744.4400719213812), (1.6e-5, -11.042921835724492), (0.125, -2.0794415416798357),
    (0.25, -1.3862943611198906), (0.5, -0.6931471805599453), (0.75, -0.2876820724517809), (1.0, 0.0),
    (1.5, 0.4054651081081644), (1.6, 0.47000362924573563), (2.4000000000000004, 0.8754687373539001)]
    (Number.ofSize true Number.infinityBits)

theorem tabled_rising : Rising tabled := by
  intro x y _ less
  exact stepped_mono (by decide) (by decide) less

def unevenBars : List Bar := [⟨"GWT", ⟨1.0, 0.5, 3⟩⟩, ⟨"JVM", ⟨0.25, 0.5, 3⟩⟩, ⟨"TeaVM", ⟨undefined, undefined, 0⟩⟩]
def unevenChart : BarChart := (of "uneven" "Time (s)" unevenBars).logScale

theorem uneven_measured : Measured unevenChart :=
  ⟨by decide, by decide, by decide, by decide⟩

theorem uneven_halved : Halved unevenChart := fun _ => by decide +kernel

theorem uneven_ranked : (summaryOf "ms" unevenBars).ranked "ms" = .ok unevenBars := ranked_summaryOf "ms" (by decide)

theorem bars_to_scale_uneven : ∃ after events d, Rising tabled ∧ Measured unevenChart ∧ Halved unevenChart ∧
    unevenChart.renderBy tabled "uneven.svg" .empty = (after, ⟨events, .ok ()⟩) ∧ unevenChart.bars ≠ [] ∧
    Plot.Holds after "uneven.svg" d ∧ ToScale tabled unevenChart d ∧
    (summaryOf "ms" unevenBars).ranked "ms" = .ok unevenChart.bars ∧ (d.rects.tail.map (·.height)).Pairwise (· ≥ ·) := by
  have gave : (unevenChart.renderBy tabled "uneven.svg" .empty).2.result.toOption = some () := by decide +kernel
  obtain ⟨d, holds, scaled, descending⟩ :=
    bars_to_scale tabled_rising uneven_measured uneven_halved (Work.ran_ok gave) nofun
  exact ⟨_, _, d, tabled_rising, uneven_measured, uneven_halved, Work.ran_ok gave, nofun, holds, scaled,
    uneven_ranked, descending _ _ uneven_ranked⟩

-- The least number beside one that ends at the same height as the axis is taken to start from.
def sunkBars : List Bar :=
  [⟨"GWT", ⟨1.0, undefined, 1⟩⟩, ⟨"JVM", ⟨1.6e-5, undefined, 1⟩⟩, ⟨"TeaVM", ⟨5e-324, undefined, 1⟩⟩]

def sunkChart : BarChart := (of "sunk" "Time (s)" sunkBars).logScale
def sunkColours : List Colour := [⟨0xe5, 0x48, 0x40⟩, ⟨0x5c, 0x82, 0xa0⟩, ⟨0x00, 0xa5, 0x2b⟩]

theorem sunk_ranked : (summaryOf "ms" sunkBars).ranked "ms" = .ok sunkBars := ranked_summaryOf "ms" (by decide +kernel)

theorem least_bar_sinks : ∃ after events d, Rising tabled ∧ Measured sunkChart ∧
    sunkChart.renderBy tabled "sunk.svg" .empty = (after, ⟨events, .ok ()⟩) ∧ sunkChart.bars ≠ [] ∧
    Plot.Holds after "sunk.svg" d ∧ ¬ToScale tabled sunkChart d ∧
    (summaryOf "ms" sunkBars).ranked "ms" = .ok sunkChart.bars ∧ d.rects.tail.map (·.height) = [286, 0, 1] := by
  have gave : (sunkChart.renderBy tabled "sunk.svg" .empty).2.result.toOption = some () := by decide +kernel
  have measured : Measured sunkChart := ⟨by decide +kernel, by decide +kernel, by decide +kernel, by decide +kernel⟩
  obtain ⟨colours, coloured, holds⟩ := rendered (Work.ran_ok gave) nofun
  have known : sunkChart.colours = .ok sunkColours := rfl
  cases coloured.symm.trans known
  refine ⟨_, _, _, tabled_rising, measured, Work.ran_ok gave, nofun, holds, ?_, sunk_ranked, by decide +kernel⟩
  intro scaled
  have taller : ∃ p ∈ (numbered sunkChart).zip (drawBy tabled sunkChart sunkColours).rects.tail,
      ∃ q ∈ (numbered sunkChart).zip (drawBy tabled sunkChart sunkColours).rects.tail,
        p.1.1.stats.mean ≤ q.1.1.stats.mean ∧ q.2.height < p.2.height := by decide +kernel
  obtain ⟨p, one, q, two, less, more⟩ := taller
  exact absurd (scaled.heights p one q two less) (not_le.mpr more)

end BenchCharts.Layout
