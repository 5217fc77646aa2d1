import BenchCharts.Proofs.Plot.Unknown
import Mathlib.Data.List.Find

namespace BenchCharts.Plot
open Files Text

variable {t made after : Tree} {base place : Place} {chart last : BarChart} {charts drawn : List BarChart}
  {plots : List Plot} {dataDir plotDir path : String} {failure : Failure} {events : List Event}

-- The first step that fails: a plot that cannot be read, or a chart that cannot be drawn. The charts
-- are those before it, plot by plot.
inductive Stops (dataDir plotDir : String) (made : Tree) : List Plot → List BarChart → Failure → Prop where
  | unread {plot plots failure} (failed : (plot.summarise dataDir made).result = .error failure) :
      Stops dataDir plotDir made (plot :: plots) [] (failure.within (.plotting plot.dataset))
  | refused {plot plots path before chart later failure}
      (charted : (plot.summarise dataDir made).result = .ok (path, before ++ chart :: later))
      (drawable : ∀ other ∈ before, other.trial plotDir made = .ok ())
      (failed : chart.trial plotDir made = .error failure) :
      Stops dataDir plotDir made (plot :: plots) before (failure.within (.rendering (chart.path plotDir)))
  | later {plot plots drawn failure} (clear : plot.Clear dataDir plotDir made)
      (others : Stops dataDir plotDir made plots drawn failure) :
      Stops dataDir plotDir made (plot :: plots) (plot.chartsIn dataDir made ++ drawn) failure

theorem clear_or_stops (dataDir plotDir : String) (made : Tree) (plots : List Plot) :
    (∀ plot ∈ plots, plot.Clear dataDir plotDir made) ∨
      ∃ drawn failure, Stops dataDir plotDir made plots drawn failure := by
  induction plots with
  | nil => exact .inl nofun
  | cons plot plots ih =>
    cases given : (plot.summarise dataDir made).result with
    | error failure => exact .inr ⟨[], _, .unread given⟩
    | ok summary =>
      obtain ⟨path, charts⟩ := summary
      rcases first_failure (·.trial plotDir made) charts with all | ⟨before, chart, later, failure, split, early, failed⟩
      · have clear : plot.Clear dataDir plotDir made := by
          have same := chartsIn_ok given
          exact ⟨⟨path, same ▸ given⟩, same ▸ fun chart member => (all chart member).choose_spec⟩
        rcases ih with others | ⟨drawn, failure, stops⟩
        · exact .inl (List.forall_mem_cons.mpr ⟨clear, others⟩)
        · exact .inr ⟨_, failure, .later clear stops⟩
      · rw [split] at given
        exact .inr ⟨before, _, .refused given (fun other member => (early other member).choose_spec) failed⟩

theorem drawPlots_unread {plot : Plot} (painted : Painted base made charts t)
    (ready : t = made ∨ ∃ names, made.list dataDir = .ok names)
    (failed : (plot.summarise dataDir made).result = .error failure) :
    (drawPlots dataDir plotDir (plot :: plots)).outcome t = (t, .error (failure.within (.plotting plot.dataset))) := by
  rw [drawPlots]
  refine Work.outcome_stop ?_
  rw [Work.outcome_within, Work.outcome_look, summarise_painted painted ready, failed]
  rfl

theorem drawPlots_stop (leads : made.Leads plotDir base) (painted : Painted base made charts t)
    (ready : t = made ∨ ∃ names, made.list dataDir = .ok names) (stops : Stops dataDir plotDir made plots drawn failure) :
    ∃ after, (drawPlots dataDir plotDir plots).outcome t = (after, .error failure) ∧
      Painted base made (charts ++ drawn) after := by
  induction stops generalizing t charts with
  | unread failed =>
    rw [List.append_nil]
    exact ⟨t, drawPlots_unread painted ready failed, painted⟩
  | refused charted drawable failed =>
    obtain ⟨after, stopped, done⟩ := drawCharts_stop leads painted drawable (summarise_named charted).2 failed
    refine ⟨after, ?_, done⟩
    rw [drawPlots_charted painted ready _ charted]
    exact Work.outcome_stop stopped
  | later clear _ ih =>
    obtain ⟨next, drawn, onward⟩ := drawPlots_first leads painted ready clear
    obtain ⟨path, charted⟩ := clear.read
    obtain ⟨after, rest, done⟩ := ih drawn (.inr (summarise_listed charted))
    rw [List.append_assoc] at done
    exact ⟨after, by rw [onward, rest]; rfl, done⟩

inductive Breaks (dataDir plotDir : String) (t : Tree) (plots : List Plot) : List BarChart → Failure → Prop where
  | unmade {halt : Tree.Halt} (making : t.makeDirectories plotDir = .error halt) :
      Breaks dataDir plotDir t plots [] ((Failure.of (.obstacle halt.obstacle)).within (.creating plotDir))
  | stopped {made : Tree} {drawn : List BarChart} {failure : Failure} (making : t.makeDirectories plotDir = .ok made)
      (stops : Stops dataDir plotDir made plots drawn failure) : Breaks dataDir plotDir t plots drawn failure

-- What a run leaves that has drawn some charts: their files, each with the last chart of its path. At
-- any other place there is what was there before, or a new directory on the way to that of the charts.
structure LeftBehind (plotDir : String) (t : Tree) (drawn : List BarChart) (after : Tree) : Prop where
  here : after.here = t.here
  drawings : ∀ path last, lastChart? plotDir path (drawn.filter (!·.bars.isEmpty)) = some last →
    ∃ colours, last.colours = .ok colours ∧ Holds after path (Layout.draw last colours)
  others : ∀ place, (∀ chart ∈ drawn, chart.bars ≠ [] → after.resolve (chart.path plotDir) ≠ .ok place) →
    Tree.Grown t after (t.origin plotDir) (steps plotDir) place
  undrawn : ∀ (plot : Plot), ∀ name ∈ plot.chartNames,
    (∀ chart ∈ drawn, chart.bars ≠ [] → chart.path plotDir ≠ joinPath plotDir (name ++ ".svg")) →
    ∀ place, after.resolve (joinPath plotDir (name ++ ".svg")) = .ok place →
      Tree.Grown t after (t.origin plotDir) (steps plotDir) place
  outputs : ∀ dataset file, Dataset.isOutput dataset file = true → ∀ above content,
    t.at? (above ++ [Utf8.encode file]) = some (.file content) →
    after.at? (above ++ [Utf8.encode file]) = some (.file content)

theorem left_unmade (here : after.here = t.here)
    (grown : ∀ place, Tree.Grown t after (t.origin plotDir) (steps plotDir) place) : LeftBehind plotDir t [] after where
  here := here
  drawings := nofun
  others := fun place _ => grown place
  undrawn := fun _ _ _ _ place _ => grown place
  outputs := fun _ _ _ _ _ held => (grown _).kept held

theorem lastAt_path (named : ∀ chart ∈ charts, Plain (chart.name ++ ".svg"))
    (found : lastChart? plotDir path (charts.filter (!·.bars.isEmpty)) = some last) :
    lastAt? base (last.place base) charts = some last ∧ last.path plotDir = path := by
  have listed : last ∈ charts := List.mem_of_mem_filter (List.mem_reverse.mp (List.mem_of_find?_eq_some found))
  have here : last.path plotDir = path := by simpa using List.find?_some found
  refine ⟨?_, here⟩
  rw [← found, lastAt?, lastChart?]
  refine List.find?_congr ?_
  intro chart member
  have plain := named chart (List.mem_of_mem_filter (List.mem_reverse.mp member))
  rw [Bool.eq_iff_iff, beq_iff_eq, beq_iff_eq, ← here]
  constructor
  · intro same
    rw [BarChart.path, Tree.place_injective same]
    rfl
  · intro same
    rw [BarChart.place, joinPath_injective plain (named last listed) same]
    rfl

theorem left_painted (leads : made.Leads plotDir base) (painted : Painted base made drawn after)
    (here : made.here = t.here) (grown : ∀ place, Tree.Grown t made (t.origin plotDir) (steps plotDir) place) : LeftBehind plotDir t drawn after := by
  have inside := painted.leads leads
  have others : ∀ place, (∀ chart ∈ drawn, chart.bars ≠ [] → chart.place base ≠ place) →
      Tree.Grown t after (t.origin plotDir) (steps plotDir) place := by
    intro place away
    exact (grown place).moved painted.keeps.directories (painted.elsewhere away)
  constructor
  · exact painted.stays.trans here
  · intro path last found
    obtain ⟨shown, rfl⟩ := lastAt_path painted.named found
    obtain ⟨listed, _, _⟩ := lastAt_some shown
    obtain ⟨colours, coloured⟩ := painted.coloured last listed
    refine ⟨colours, coloured, last.place base, Tree.find_ok.mpr ⟨inside.file _ (painted.named last listed), ?_⟩⟩
    rw [painted.here shown, picture_coloured coloured]
  · intro place away
    refine others place ?_
    rintro chart listed bars rfl
    exact away chart listed bars (inside.file _ (painted.named chart listed))
  · intro plot name member unshared place resolved
    have plain := chartNames_plain plot name member
    cases (inside.file _ plain).symm.trans resolved
    refine others _ ?_
    intro chart listed bars same
    refine unshared chart listed bars ?_
    rw [BarChart.path, Tree.place_injective same]
  · intro dataset file output above content held
    rw [(painted.untouched dataset).outputs above file output]
    exact (grown _).kept held

theorem failure_leaves_prefix (ran : drawAll plots dataDir plotDir t = (after, ⟨events, .error failure⟩)) :
    ∃ drawn, Breaks dataDir plotDir t plots drawn failure ∧ LeftBehind plotDir t drawn after := by
  have ended : (drawAll plots dataDir plotDir).outcome t = (after, .error failure) := Work.outcome_exact.mpr ⟨events, ran⟩
  have asked : plots ≠ [] := by
    rintro rfl
    cases ended
  have grown := Tree.makeDirectories_grown t plotDir
  have here := Tree.makeDirectories_here t plotDir
  cases making : t.makeDirectories plotDir with
  | error halt =>
    rw [drawAll_unmade asked making] at ended
    rw [making] at grown here
    cases ended
    exact ⟨[], .unmade making, left_unmade here grown⟩
  | ok made =>
    obtain ⟨base, leads⟩ := Tree.makeDirectories_leads making
    rw [drawAll_made asked making] at ended
    rw [making] at grown here
    rcases clear_or_stops dataDir plotDir made plots with clear | ⟨drawn, failure', stops⟩
    · obtain ⟨_, finished, _⟩ := drawPlots_all leads .start (.inl rfl) clear
      rw [ended] at finished
      cases finished
    · obtain ⟨_, stopped, painted⟩ := drawPlots_stop leads .start (.inl rfl) stops
      cases ended.symm.trans stopped
      exact ⟨drawn, .stopped making stops, left_painted leads painted here grown⟩

-- A chart is drawn before the data of the next plot is found missing.
theorem failure_leaves_prefix_sample : ∃ after events failure drawn,
    drawAll [.binarySize 1.6, .buildTime 3] "data" "plots" (sizeTree "name,bytes\njvm,1\n") =
      (after, ⟨events, .error failure⟩) ∧
    Breaks "data" "plots" (sizeTree "name,bytes\njvm,1\n") [.binarySize 1.6, .buildTime 3] drawn failure ∧
    after.holds "plots/size.svg" = true ∧ LeftBehind "plots" (sizeTree "name,bytes\njvm,1\n") drawn after := by
  have failed : (drawAll [.binarySize 1.6, .buildTime 3] "data" "plots"
      (sizeTree "name,bytes\njvm,1\n")).2.result.toOption = none := by decide +kernel
  obtain ⟨failure, ran⟩ := Work.ran_error failed
  obtain ⟨drawn, breaks, left⟩ := failure_leaves_prefix ran
  exact ⟨_, _, failure, drawn, ran, breaks, by decide +kernel, left⟩

-- Two plots of one path, the second of which counts a row of no project.
def sharedTree : Tree :=
  Tree.empty.plant [Utf8.encode "data", Utf8.encode "build-0-0-0-0-0-1.csv"]
    (.file (.bytes (Utf8.encode "name,iteration,build_time_ms\nkotlin,0,5\njvm,3,5\n")))

theorem shared_charts : ∃ made path charts table last, sharedTree.makeDirectories "plots" = .ok made ∧
    (Plot.buildTime 3).Clear "data" "plots" made ∧
    lastChart? "plots" "plots/build.svg" (((Plot.buildTime 3).chartsIn "data" made).filter (!·.bars.isEmpty)) = some last ∧
    ((Plot.buildTime 0).summarise "data" made).result = .ok (path, charts) ∧
    ((Plot.buildTime 0).charts table).result = .ok charts ∧
    ¬∀ row ∈ (Plot.buildTime 0).aggregation.keptRows table, RowKnown table row := by
  have given : (sharedTree.makeDirectories "plots").toOption.any fun made =>
      decide ((Plot.buildTime 3).Clear "data" "plots" made) &&
      (lastChart? "plots" "plots/build.svg"
        (((Plot.buildTime 3).chartsIn "data" made).filter (!·.bars.isEmpty))).isSome &&
      ((Plot.buildTime 0).summarise "data" made).result.toOption.isSome &&
      ((Dataset.latestOutput made "data" "build").result.toOption.bind fun path =>
        (Table.load made path).result.toOption).any fun table =>
          table.text? nameColumn 0 == some "kotlin" && (Plot.buildTime 0).aggregation.keptRows table == [0, 1] := by
    decide +kernel
  cases making : sharedTree.makeDirectories "plots" with
  | error halt =>
    rw [making] at given
    cases given
  | ok made =>
    rw [making] at given
    obtain ⟨early, held⟩ := Bool.and_eq_true_iff.mp given
    obtain ⟨early, read⟩ := Bool.and_eq_true_iff.mp early
    obtain ⟨clear, found⟩ := Bool.and_eq_true_iff.mp early
    obtain ⟨last, found⟩ := Option.isSome_iff_exists.mp found
    obtain ⟨⟨path, charts⟩, charted⟩ := Option.isSome_iff_exists.mp read
    have charted := toOption_ok.mp charted
    obtain ⟨table, located, loaded, built⟩ := summarise_ok charted
    refine ⟨made, path, charts, table, last, rfl, of_decide_eq_true clear, found, charted, built, ?_⟩
    have loaded : ((Dataset.latestOutput made "data" "build").result.toOption.bind fun path =>
        (Table.load made path).result.toOption) = some table := by
      have there : (Dataset.latestOutput made "data" "build").result = .ok path := located
      rw [there]
      exact toOption_ok.mpr loaded
    rw [loaded] at held
    obtain ⟨named, kept⟩ := Bool.and_eq_true_iff.mp held
    intro known
    obtain ⟨label, there, project⟩ := known 0 (by rw [beq_iff_eq.mp kept]; exact List.mem_cons_self)
    cases there.symm.trans (beq_iff_eq.mp named)
    exact absurd project (by decide)

-- The failing chart is not the first of its path: its file is there although it was not before.
theorem shared_path_drawn : ∃ after events failure,
    drawAll [.buildTime 3, .buildTime 0] "data" "plots" sharedTree = (after, ⟨events, .error failure⟩) ∧
    failure.contexts = [.rendering "plots/build.svg"] ∧ sharedTree.holds "plots/build.svg" = false ∧
    after.holds "plots/build.svg" = true := by
  obtain ⟨made, path, charts, table, last, making, clear, found, charted, built, unknown⟩ := shared_charts
  obtain ⟨base, leads⟩ := Tree.makeDirectories_leads making
  have grown := Tree.makeDirectories_grown sharedTree "plots"
  rw [making] at grown
  obtain ⟨chart, rest, rfl⟩ := charts_first built
  obtain ⟨s, summarised, ranked⟩ := charts_charted built
  obtain ⟨metric, bars⟩ := ranked.ranked List.mem_cons_self
  obtain ⟨label, _, uncoloured⟩ := uncoloured_first summarised bars unknown
  have refused : Stops "data" "plots" made [.buildTime 0] [] _ :=
    .refused charted nofun (trial_uncoloured uncoloured)
  obtain ⟨after, ended, painted⟩ := drawPlots_stop leads .start (.inl rfl) (refused.later clear)
  rw [← drawAll_made (by simp) making] at ended
  rw [List.nil_append, List.append_nil] at painted
  obtain ⟨events, ran⟩ := Work.outcome_exact.mp ended
  refine ⟨after, events, _, ran, ?_, by decide +kernel, ?_⟩
  · have name : chart.name = "build" := (List.cons.inj (charts_ok built).1).1
    have here : chart.path "plots" = "plots/build.svg" := by
      rw [BarChart.path, name]
      decide +kernel
    show [Context.rendering (chart.path "plots")] = _
    rw [here]
  · obtain ⟨_, _, place, there⟩ := (left_painted leads painted (Tree.makeDirectories_keeps making).here grown).drawings _ last found
    rw [Tree.holds, there]
    rfl

end BenchCharts.Plot
