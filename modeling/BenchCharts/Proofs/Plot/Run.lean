import BenchCharts.Proofs.Files.Path
import BenchCharts.Proofs.Work

namespace BenchCharts.Plot
open Files

-- A file that was written, with what was drawn there.
structure Write where
  path : String
  picture : Drawing
deriving DecidableEq

inductive ChartStep (plotDir : String) : Tree → BarChart → List Write → Tree → Prop where
  | skipped {t chart} (empty : chart.bars = []) : ChartStep plotDir t chart [] t
  | drawn {t chart colours next} (bars : chart.bars ≠ []) (coloured : chart.colours = .ok colours)
      (wrote : t.write (chart.path plotDir) (.drawing (Layout.draw chart colours)) = .ok next) :
      ChartStep plotDir t chart [⟨chart.path plotDir, Layout.draw chart colours⟩] next

inductive ChartRuns (plotDir : String) : Tree → List BarChart → List Write → Tree → Prop where
  | nil {t} : ChartRuns plotDir t [] [] t
  | cons {t chart first middle charts rest after} (step : ChartStep plotDir t chart first middle)
      (others : ChartRuns plotDir middle charts rest after) :
      ChartRuns plotDir t (chart :: charts) (first ++ rest) after

def chartEvent (plotDir : String) (chart : BarChart) : Event :=
  if chart.bars = [] then .noBars chart.name (chart.path plotDir)
  else .rendering chart.bars.length (chart.path plotDir) chart.yRange.1 chart.yRange.2

def chartEvents (plotDir : String) (chart : BarChart) : List Event :=
  [chartEvent plotDir chart, .wrote (chart.path plotDir)]

inductive PlotRuns (dataDir plotDir : String) :
    Tree → List Plot → List BarChart → List Event → List Write → Tree → Prop where
  | nil {t} : PlotRuns dataDir plotDir t [] [] [] [] t
  | cons {t plot seen path charts first middle plots later events rest after}
      (charted : summarise plot dataDir t = ⟨seen, .ok (path, charts)⟩)
      (drawn : ChartRuns plotDir t charts first middle)
      (others : PlotRuns dataDir plotDir middle plots later events rest after) :
      PlotRuns dataDir plotDir t (plot :: plots) (charts ++ later)
        (seen ++ .charted charts.length path :: charts.flatMap (chartEvents plotDir) ++ events) (first ++ rest) after

-- A whole run: without plots the tree is left alone, otherwise the directory is made first.
inductive Run (dataDir plotDir : String) :
    Tree → List Plot → List BarChart → List Event → List Write → Tree → Prop where
  | idle {t} : Run dataDir plotDir t [] [] [.noPlots] [] t
  | drew {t made plots charts events writes after} (asked : plots ≠ [])
      (making : t.makeDirectories plotDir = .ok made)
      (run : PlotRuns dataDir plotDir made plots charts events writes after) :
      Run dataDir plotDir t plots charts events writes after

variable {t middle after : Tree} {chart : BarChart} {charts later : List BarChart} {plots : List Plot}
  {dataDir plotDir path : String} {written : List String} {events : List Event} {writes first rest : List Write}

theorem ChartRuns.append (one : ChartRuns plotDir t charts first middle)
    (two : ChartRuns plotDir middle later rest after) :
    ChartRuns plotDir t (charts ++ later) (first ++ rest) after := by
  induction one with
  | nil => exact two
  | cons step _ ih =>
    rw [List.append_assoc]
    exact .cons step (ih two)

theorem PlotRuns.chartRuns (run : PlotRuns dataDir plotDir t plots charts events writes after) :
    ChartRuns plotDir t charts writes after := by
  induction run with
  | nil => exact .nil
  | cons _ drawn _ ih => exact drawn.append ih

theorem renderBy_exact {ln : Float → Float} {u : Unit} : chart.renderBy ln path t = (after, ⟨events, .ok u⟩) ↔
    (chart.bars = [] ∧ after = t ∧ events = [.noBars chart.name path]) ∨
    (chart.bars ≠ [] ∧ events = [.rendering chart.bars.length path chart.yRange.1 chart.yRange.2] ∧
      ∃ colours, chart.colours = .ok colours ∧
        t.write path (.drawing (Layout.drawBy ln chart colours)) = .ok after) := by
  unfold BarChart.renderBy
  rw [Work.bind_ok]
  constructor
  · intro ⟨middle, first, colours, rest, looked, finished, joined⟩
    obtain ⟨same, coloured⟩ := Work.look_ok.mp looked
    obtain ⟨coloured, silent⟩ := Logged.of_ok.mp coloured
    rw [silent, List.nil_append] at joined
    subst same joined
    split at finished
    · rename_i empty
      obtain ⟨same, noted⟩ := Work.note_ok.mp finished
      exact .inl ⟨by simpa using empty, same, noted⟩
    · rename_i bars
      obtain ⟨rest, changed, noted⟩ := Work.noted_ok.mp finished
      obtain ⟨wrote, silent⟩ := Work.change_ok.mp changed
      exact .inr ⟨by simpa using bars, silent ▸ noted, colours, coloured, wrote⟩
  · intro outcome
    rcases outcome with ⟨empty, rfl, rfl⟩ | ⟨bars, rfl, colours, coloured, wrote⟩
    · have plain : chart.colours = .ok [] := by
        rw [BarChart.colours, empty]
        rfl
      refine ⟨_, [], [], _, Work.look_ok.mpr ⟨rfl, Logged.of_ok.mpr ⟨plain, rfl⟩⟩, ?_, rfl⟩
      rw [if_pos (by simp [empty])]
      exact Work.note_ok.mpr ⟨rfl, rfl⟩
    · refine ⟨_, [], colours, _, Work.look_ok.mpr ⟨rfl, Logged.of_ok.mpr ⟨coloured, rfl⟩⟩, ?_, rfl⟩
      rw [if_neg (by simp [bars])]
      exact Work.noted_ok.mpr ⟨[], Work.change_ok.mpr ⟨wrote, rfl⟩, rfl⟩

theorem render_exact {u : Unit} : chart.render path t = (after, ⟨events, .ok u⟩) ↔
    (chart.bars = [] ∧ after = t ∧ events = [.noBars chart.name path]) ∨
    (chart.bars ≠ [] ∧ events = [.rendering chart.bars.length path chart.yRange.1 chart.yRange.2] ∧
      ∃ colours, chart.colours = .ok colours ∧
        t.write path (.drawing (Layout.draw chart colours)) = .ok after) := renderBy_exact

theorem step_exact {u : Unit} : chart.render (chart.path plotDir) t = (after, ⟨events, .ok u⟩) ↔
    events = [chartEvent plotDir chart] ∧ ∃ writes, ChartStep plotDir t chart writes after := by
  rw [render_exact]
  constructor
  · intro outcome
    rcases outcome with ⟨empty, rfl, rfl⟩ | ⟨bars, rfl, colours, coloured, wrote⟩
    · exact ⟨by rw [chartEvent, if_pos empty], [], .skipped empty⟩
    · exact ⟨by rw [chartEvent, if_neg bars], _, .drawn bars coloured wrote⟩
  · intro ⟨noted, writes, step⟩
    cases step with
    | skipped empty => exact .inl ⟨empty, rfl, by rw [noted, chartEvent, if_pos empty]⟩
    | drawn bars coloured wrote =>
      exact .inr ⟨bars, by rw [noted, chartEvent, if_neg bars], _, coloured, wrote⟩

theorem drawCharts_exact : drawCharts plotDir charts t = (after, ⟨events, .ok written⟩) ↔
    written = charts.map (·.path plotDir) ∧ events = charts.flatMap (chartEvents plotDir) ∧
      ∃ writes, ChartRuns plotDir t charts writes after := by
  induction charts generalizing t events written with
  | nil =>
    constructor
    · intro ran
      obtain ⟨same, silent, paths⟩ := Work.pure_ok.mp ran
      exact ⟨paths.symm, silent, [], same ▸ .nil⟩
    · intro ⟨paths, silent, writes, run⟩
      cases run
      exact Work.pure_ok.mpr ⟨rfl, silent, paths.symm⟩
  | cons chart charts ih =>
    unfold drawCharts
    rw [Work.bind_ok]
    constructor
    · intro ⟨middle, first, u, rest, rendered, inner, joined⟩
      obtain ⟨noted, writes, step⟩ := step_exact.mp (Work.within_ok.mp rendered)
      obtain ⟨later, drew, told⟩ := Work.noted_ok.mp inner
      obtain ⟨paths, drawn, listed⟩ := Work.mapped_ok.mp drew
      obtain ⟨rfl, rfl, others, run⟩ := ih.mp drawn
      exact ⟨listed.symm, by rw [joined, noted, told]; rfl, _, .cons step run⟩
    · intro ⟨paths, listed, writes, run⟩
      cases run with
      | cons step others =>
        refine ⟨_, _, (), .wrote (chart.path plotDir) :: charts.flatMap (chartEvents plotDir),
          Work.within_ok.mpr (step_exact.mpr ⟨rfl, _, step⟩), ?_, listed⟩
        refine Work.noted_ok.mpr ⟨_, Work.mapped_ok.mpr ⟨_, ih.mpr ⟨rfl, rfl, _, others⟩, ?_⟩, rfl⟩
        exact paths.symm

theorem drawPlots_exact : drawPlots dataDir plotDir plots t = (after, ⟨events, .ok written⟩) ↔
    ∃ charts writes, PlotRuns dataDir plotDir t plots charts events writes after ∧
      written = charts.map (·.path plotDir) := by
  induction plots generalizing t events written with
  | nil =>
    constructor
    · intro ran
      obtain ⟨same, silent, paths⟩ := Work.pure_ok.mp ran
      subst same silent
      exact ⟨[], [], .nil, paths.symm⟩
    · intro ⟨charts, writes, run, paths⟩
      cases run
      exact Work.pure_ok.mpr ⟨rfl, rfl, paths.symm⟩
  | cons plot plots ih =>
    unfold drawPlots
    rw [Work.bind_ok]
    constructor
    · intro ⟨same, seen, ⟨path, charts⟩, rest, looked, inner, joined⟩
      obtain ⟨rfl, charted⟩ := Work.look_ok.mp (Work.within_ok.mp looked)
      obtain ⟨told, body, noted⟩ := Work.noted_ok.mp inner
      obtain ⟨middle, drawn, paths, later, finished, last, appended⟩ := Work.bind_ok.mp body
      obtain ⟨rfl, rfl, first, chartRun⟩ := drawCharts_exact.mp finished
      obtain ⟨others, rested, all⟩ := Work.mapped_ok.mp last
      obtain ⟨further, writes, plotRun, rfl⟩ := ih.mp rested
      refine ⟨charts ++ further, first ++ writes, ?_, by rw [← all, List.map_append]⟩
      have listed : events = seen ++ .charted charts.length path :: charts.flatMap (chartEvents plotDir) ++ later := by
        rw [joined, noted, appended]
        simp
      rw [listed]
      exact .cons charted chartRun plotRun
    · intro ⟨charts, writes, run, paths⟩
      cases run with
      | cons charted drawn others =>
        refine ⟨_, _, _, _, Work.within_ok.mpr (Work.look_ok.mpr ⟨rfl, charted⟩), ?_, by rw [List.append_assoc]⟩
        refine Work.noted_ok.mpr ⟨_, ?_, rfl⟩
        refine Work.bind_ok.mpr ⟨_, _, _, _, drawCharts_exact.mpr ⟨rfl, rfl, _, drawn⟩, ?_, rfl⟩
        exact Work.mapped_ok.mpr ⟨_, ih.mpr ⟨_, _, others, rfl⟩, by rw [paths, List.map_append]⟩

theorem drawAll_exact : drawAll plots dataDir plotDir t = (after, ⟨events, .ok written⟩) ↔
    ∃ charts writes, Run dataDir plotDir t plots charts events writes after ∧
      written = charts.map (·.path plotDir) := by
  unfold drawAll
  split
  · rename_i empty
    have idle : plots = [] := by simpa using empty
    rw [Work.noted_ok]
    constructor
    · intro ⟨later, gave, noted⟩
      obtain ⟨rfl, rfl, rfl⟩ := Work.pure_ok.mp gave
      subst idle noted
      exact ⟨[], [], .idle, rfl⟩
    · intro ⟨charts, writes, run, paths⟩
      cases run with
      | idle =>
        exact ⟨[], Work.pure_ok.mpr ⟨rfl, rfl, paths.symm⟩, rfl⟩
      | drew asked => exact absurd idle asked
  · rename_i given
    have asked : plots ≠ [] := by simpa using given
    rw [Work.bind_ok]
    constructor
    · intro ⟨made, silent, u, rest, changed, drew, joined⟩
      obtain ⟨making, rfl⟩ := Work.advance_ok.mp (Work.within_ok.mp changed)
      obtain ⟨charts, writes, run, paths⟩ := drawPlots_exact.mp drew
      subst joined
      exact ⟨charts, writes, .drew asked making run, paths⟩
    · intro ⟨charts, writes, run, paths⟩
      cases run with
      | idle => exact absurd rfl asked
      | drew _ making run =>
        exact ⟨_, [], (), _, Work.within_ok.mpr (Work.advance_ok.mpr ⟨making, rfl⟩),
          drawPlots_exact.mpr ⟨charts, writes, run, paths⟩, rfl⟩

end BenchCharts.Plot
