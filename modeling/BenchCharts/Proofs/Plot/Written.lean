import BenchCharts.Proofs.Plot.Charts
import BenchCharts.Proofs.Plot.Run
import BenchCharts.Report.Basic

namespace BenchCharts.Plot
open Files

def Holds (t : Tree) (path : String) (picture : Drawing) : Prop :=
  ∃ place, t.find path = .ok (place, .file (.drawing picture))

def lastChart? (plotDir path : String) (charts : List BarChart) : Option BarChart :=
  charts.reverse.find? (·.path plotDir == path)

def lastWrite? (path : String) (writes : List Write) : Option Write := writes.reverse.find? (·.path == path)

variable {t after : Tree} {chart last : BarChart} {charts : List BarChart} {plots : List Plot}
  {dataDir plotDir path file : String} {written : List String} {events : List Event}
  {writes first rest : List Write} {write : Write} {picture other : Drawing}

theorem Holds.unique (one : Holds t path picture) (two : Holds t path other) : picture = other := by
  obtain ⟨place, found⟩ := one
  obtain ⟨place', found'⟩ := two
  rw [found] at found'
  cases found'
  rfl

theorem draw_bars {colours colours' : List Colour} (same : Layout.draw chart colours = Layout.draw last colours') :
    chart.bars.length = last.bars.length := by
  have labels := congrArg (·.xLabels.length) same
  simpa [Layout.draw, Layout.drawBy, Layout.captions] using labels

theorem lastWrite_append : lastWrite? path (first ++ rest) = (lastWrite? path rest).or (lastWrite? path first) := by
  simp [lastWrite?, List.find?_append]

theorem lastWrite_none : lastWrite? path writes = none ↔ path ∉ writes.map (·.path) := by
  simp [lastWrite?]

theorem lastChart_cons : lastChart? plotDir path (chart :: charts) =
    (lastChart? plotDir path charts).or (if chart.path plotDir = path then some chart else none) := by
  by_cases here : chart.path plotDir = path <;> simp [lastChart?, List.find?_append, here]

theorem lastChart_none : lastChart? plotDir path charts = none ↔ path ∉ charts.map (·.path plotDir) := by
  simp [lastChart?]

theorem step_paths (step : ChartStep plotDir t chart writes after) :
    writes.map (·.path) = ([chart].filter (!·.bars.isEmpty)).map (·.path plotDir) := by
  cases step with
  | skipped empty => simp [empty]
  | drawn bars coloured wrote => simp [bars]

theorem ChartRuns.paths (run : ChartRuns plotDir t charts writes after) :
    writes.map (·.path) = (charts.filter (!·.bars.isEmpty)).map (·.path plotDir) := by
  induction run with
  | nil => rfl
  | cons step _ ih =>
    rw [List.map_append, step_paths step, ih, ← List.map_append, ← List.filter_append]
    rfl

theorem ChartRuns.mem_writes (run : ChartRuns plotDir t charts writes after) (member : write ∈ writes) :
    ∃ chart ∈ charts, chart.bars ≠ [] ∧ ∃ colours, write.picture = Layout.draw chart colours := by
  induction run with
  | nil => cases member
  | cons step others ih =>
    rcases List.mem_append.mp member with early | late
    · cases step with
      | skipped empty => cases early
      | drawn bars coloured wrote =>
        cases List.mem_singleton.mp early
        exact ⟨_, List.mem_cons_self, bars, _, rfl⟩
    · obtain ⟨chart, listed, drawn⟩ := ih late
      exact ⟨chart, List.mem_cons_of_mem _ listed, drawn⟩

-- The last chart of a path, if it has bars, makes the last write there.
theorem ChartRuns.last_write (run : ChartRuns plotDir t charts writes after)
    (found : lastChart? plotDir path charts = some last) (bars : last.bars ≠ []) :
    ∃ colours, last.colours = .ok colours ∧ lastWrite? path writes = some ⟨path, Layout.draw last colours⟩ := by
  induction run with
  | nil => cases found
  | @cons t chart first middle charts rest after step others ih =>
    rw [lastChart_cons] at found
    rw [lastWrite_append]
    cases later : lastChart? plotDir path charts with
    | some c =>
      rw [later, Option.some_or] at found
      cases found
      obtain ⟨colours, coloured, wrote⟩ := ih later
      exact ⟨colours, coloured, by rw [wrote, Option.some_or]⟩
    | none =>
      rw [later, Option.none_or] at found
      have unwritten : lastWrite? path rest = none := by
        rw [lastWrite_none, others.paths]
        intro member
        obtain ⟨c, full, same⟩ := List.mem_map.mp member
        exact lastChart_none.mp later (List.mem_map.mpr ⟨c, List.mem_of_mem_filter full, same⟩)
      split at found
      · rename_i here
        cases found
        rw [unwritten, Option.none_or]
        cases step with
        | skipped empty => exact absurd empty bars
        | drawn _ coloured wrote => exact ⟨_, coloured, by simp [lastWrite?, here]⟩
      · cases found

section Files

variable (plain : Plain file) (named : ∀ chart ∈ charts, Plain (chart.name ++ ".svg"))

include plain

-- A step that does not write a file leaves it.
theorem step_keeps (named : Plain (chart.name ++ ".svg")) (step : ChartStep plotDir t chart writes after)
    (away : joinPath plotDir file ∉ writes.map (·.path)) (held : Holds t (joinPath plotDir file) picture) :
    Holds after (joinPath plotDir file) picture := by
  cases step with
  | skipped empty => exact held
  | drawn bars coloured wrote =>
    obtain ⟨place, found⟩ := held
    have differ : chart.name ++ ".svg" ≠ file := by
      intro same
      refine away ?_
      rw [← same]
      exact List.mem_singleton_self _
    exact ⟨place, Tree.write_beside named plain differ wrote found⟩

include named

theorem ChartRuns.keeps (run : ChartRuns plotDir t charts writes after)
    (away : joinPath plotDir file ∉ writes.map (·.path)) (held : Holds t (joinPath plotDir file) picture) :
    Holds after (joinPath plotDir file) picture := by
  induction run with
  | nil => exact held
  | cons step others ih =>
    obtain ⟨here, later⟩ := List.forall_mem_cons.mp named
    rw [List.map_append, List.mem_append] at away
    have stepped := step_keeps plain here step (fun early => away (.inl early)) held
    exact ih later (fun late => away (.inr late)) stepped

-- The last write of a file is what it holds.
theorem ChartRuns.holds (run : ChartRuns plotDir t charts writes after)
    (found : lastWrite? (joinPath plotDir file) writes = some write) :
    Holds after (joinPath plotDir file) write.picture := by
  induction run with
  | nil => cases found
  | @cons t chart first middle charts rest after step others ih =>
    obtain ⟨_, later⟩ := List.forall_mem_cons.mp named
    rw [lastWrite_append] at found
    cases behind : lastWrite? (joinPath plotDir file) rest with
    | some w =>
      rw [behind, Option.some_or] at found
      cases found
      exact ih later behind
    | none =>
      rw [behind, Option.none_or] at found
      refine others.keeps plain later (lastWrite_none.mp behind) ?_
      cases step with
      | skipped empty => cases found
      | drawn bars coloured wrote =>
        have listed := List.mem_singleton.mp (List.mem_reverse.mp (List.mem_of_find?_eq_some found))
        have here : write.path = joinPath plotDir file := by simpa using List.find?_some found
        rw [listed] at here ⊢
        rw [← here]
        exact Tree.write_find wrote

end Files

theorem PlotRuns.named (run : PlotRuns dataDir plotDir t plots charts events writes after) :
    ∀ chart ∈ charts, Plain (chart.name ++ ".svg") := by
  induction run with
  | nil => nofun
  | @cons t plot seen path charts first middle plots later events rest after charted _ _ ih =>
    intro chart member
    rcases List.mem_append.mp member with early | late
    · have ran := congrArg Logged.result charted
      obtain ⟨table, _, _, made⟩ := summarise_ok ran
      exact charts_plain made chart early
    · exact ih chart late

-- A chart has bars exactly if its plot keeps a row of the table it has read.
theorem PlotRuns.source (run : PlotRuns dataDir plotDir t plots charts events writes after)
    (member : chart ∈ charts) : ∃ plot ∈ plots, ∃ seen source table,
      (Dataset.latestOutput seen dataDir plot.dataset).result = .ok source ∧
      (Table.load seen source).result = .ok table ∧
      (chart.bars ≠ [] ↔ plot.aggregation.keptRows table ≠ []) := by
  induction run with
  | nil => cases member
  | @cons t plot seen path charts first middle plots later events rest after charted _ _ ih =>
    rcases List.mem_append.mp member with early | late
    · have ran := congrArg Logged.result charted
      obtain ⟨table, located, loaded, made⟩ := summarise_ok ran
      exact ⟨plot, List.mem_cons_self, t, path, table, located, loaded, not_congr ((charts_ok made).2 chart early)⟩
    · obtain ⟨plot, listed, origin⟩ := ih late
      exact ⟨plot, List.mem_cons_of_mem _ listed, origin⟩

theorem charts_reported (plotDir : String) (charts : List BarChart) :
    (charts.flatMap (chartEvents plotDir)).filterMap Event.written? = charts.map (·.path plotDir) := by
  induction charts with
  | nil => rfl
  | cons chart charts ih =>
    have silent : (chartEvent plotDir chart).written? = none := by
      unfold chartEvent
      split <;> rfl
    rw [List.flatMap_cons, List.filterMap_append, ih, chartEvents, List.filterMap_cons_none silent]
    rfl

theorem PlotRuns.reported (run : PlotRuns dataDir plotDir t plots charts events writes after) :
    events.filterMap Event.written? = charts.map (·.path plotDir) := by
  induction run with
  | nil => rfl
  | @cons t plot seen path charts first middle plots later events rest after charted _ _ ih =>
    have quiet : seen.filterMap Event.written? = [] := by
      rw [List.filterMap_eq_nil_iff]
      intro event member
      refine summarise_quiet plot dataDir t event ?_
      rw [charted]
      exact member
    rw [List.filterMap_append, List.filterMap_append, quiet, ih, List.map_append, ← charts_reported plotDir charts]
    rfl

theorem Run.reported (run : Run dataDir plotDir t plots charts events writes after) :
    events.filterMap Event.written? = charts.map (·.path plotDir) := by
  cases run with
  | idle => rfl
  | drew _ _ run => exact run.reported

theorem ChartRuns.mem_paths (run : ChartRuns plotDir t charts writes after) :
    path ∈ writes.map (·.path) ↔ ∃ chart ∈ charts, chart.path plotDir = path ∧ chart.bars ≠ [] := by
  rw [run.paths, List.mem_map]
  constructor
  · intro ⟨chart, full, same⟩
    obtain ⟨listed, bars⟩ := List.mem_filter.mp full
    exact ⟨chart, listed, same, by simpa using bars⟩
  · intro ⟨chart, listed, same, bars⟩
    exact ⟨chart, List.mem_filter.mpr ⟨listed, by simpa using bars⟩, same⟩

theorem ChartRuns.last_holds (run : ChartRuns plotDir t charts writes after)
    (named : ∀ chart ∈ charts, Plain (chart.name ++ ".svg")) (found : lastChart? plotDir path charts = some last) :
    (path ∈ writes.map (·.path) ∧
      ∃ colours, last.colours = .ok colours ∧ Holds after path (Layout.draw last colours)) ↔ last.bars ≠ [] := by
  have listed : last ∈ charts := List.mem_reverse.mp (List.mem_of_find?_eq_some found)
  have here : last.path plotDir = path := by simpa using List.find?_some found
  constructor
  · intro ⟨member, colours, coloured, held⟩ empty
    cases wrote : lastWrite? path writes with
    | none => exact lastWrite_none.mp wrote member
    | some write =>
      obtain ⟨chart, _, bars, others, picture⟩ :=
        run.mem_writes (List.mem_reverse.mp (List.mem_of_find?_eq_some wrote))
      rw [← here] at wrote held
      have same := (run.holds (named last listed) named wrote).unique held
      rw [picture] at same
      have length := draw_bars same
      rw [empty, List.length_nil] at length
      exact bars (List.length_eq_zero_iff.mp length)
  · intro bars
    obtain ⟨colours, coloured, wrote⟩ := run.last_write found bars
    refine ⟨run.mem_paths.mpr ⟨last, listed, here, bars⟩, colours, coloured, ?_⟩
    rw [← here] at wrote ⊢
    exact run.holds (named last listed) named wrote

-- The paths reported by a run are those of its charts, whether or not anything was drawn there.
theorem reported_drawn_iff_bars (ran : drawAll plots dataDir plotDir t = (after, ⟨events, .ok written⟩)) :
    ∃ charts writes, Run dataDir plotDir t plots charts events writes after ∧
      written = charts.map (·.path plotDir) ∧ events.filterMap Event.written? = written ∧
      (Report.plot t ⟨⟨dataDir, plotDir⟩, plots⟩).2.text = String.join (written.map (· ++ "\n")) ∧
      ∀ path ∈ written, ∃ last, lastChart? plotDir path charts = some last ∧
        ((path ∈ writes.map (·.path) ∧
          ∃ colours, last.colours = .ok colours ∧ Holds after path (Layout.draw last colours)) ↔ last.bars ≠ []) ∧
        (path ∈ writes.map (·.path) ↔ ∃ chart ∈ charts, chart.path plotDir = path ∧ chart.bars ≠ []) ∧
        ∃ plot ∈ plots, ∃ seen source table, (Dataset.latestOutput seen dataDir plot.dataset).result = .ok source ∧
          (Table.load seen source).result = .ok table ∧
          (last.bars ≠ [] ↔ plot.aggregation.keptRows table ≠ []) := by
  obtain ⟨charts, writes, run, paths⟩ := drawAll_exact.mp ran
  refine ⟨charts, writes, run, paths, paths ▸ run.reported, ?_, ?_⟩
  · unfold Report.plot
    rw [ran]
  · intro path member
    rw [paths] at member
    cases run with
    | idle => cases member
    | drew asked making run =>
      cases found : lastChart? plotDir path charts with
      | none => exact absurd member (lastChart_none.mp found)
      | some last =>
        have listed : last ∈ charts := List.mem_reverse.mp (List.mem_of_find?_eq_some found)
        exact ⟨last, rfl, run.chartRuns.last_holds run.named found, run.chartRuns.mem_paths, run.source listed⟩

def sizeTree (table : String) : Tree :=
  Tree.empty.plant [Text.Utf8.encode "data", Text.Utf8.encode "size-0-0-0-0-0-1.csv"]
    (.file (.bytes (Text.Utf8.encode table)))

def samplePlots : List Plot := [.binarySize 1.6, .binarySize 2.0]

theorem reported_drawn_iff_bars_sample : ∃ after events charts writes,
    drawAll samplePlots "data" "plots" (sizeTree "name,bytes\njvm,1\n") =
      (after, ⟨events, .ok ["plots/size.svg", "plots/size.svg"]⟩) ∧
    Run "data" "plots" (sizeTree "name,bytes\njvm,1\n") samplePlots charts events writes after ∧
    after.holds "plots/size.svg" ∧ ∃ last, lastChart? "plots" "plots/size.svg" charts = some last ∧
      (("plots/size.svg" ∈ writes.map (·.path) ∧ ∃ colours, last.colours = .ok colours ∧
        Holds after "plots/size.svg" (Layout.draw last colours)) ↔ last.bars ≠ []) := by
  have gave : (drawAll samplePlots "data" "plots" (sizeTree "name,bytes\njvm,1\n")).2.result.toOption =
      some ["plots/size.svg", "plots/size.svg"] := by decide +kernel
  have ran := Work.ran_ok gave
  obtain ⟨charts, writes, run, _, _, _, drawn⟩ := reported_drawn_iff_bars ran
  obtain ⟨last, found, held, _⟩ := drawn "plots/size.svg" List.mem_cons_self
  exact ⟨_, _, charts, writes, ran, run, by decide +kernel, last, found, held⟩

-- A table without rows gives a chart without bars: its path is reported and nothing is there.
theorem empty_chart_reported : ∃ after events,
    drawAll [.binarySize 1.6] "data" "plots" (sizeTree "name,bytes\n") =
      (after, ⟨events, .ok ["plots/size.svg"]⟩) ∧
    events.filterMap Event.written? = ["plots/size.svg"] ∧ after.holds "plots/size.svg" = false := by
  have gave : (drawAll [.binarySize 1.6] "data" "plots" (sizeTree "name,bytes\n")).2.result.toOption =
      some ["plots/size.svg"] := by decide +kernel
  exact ⟨_, _, Work.ran_ok gave, by decide +kernel, by decide +kernel⟩

end BenchCharts.Plot
