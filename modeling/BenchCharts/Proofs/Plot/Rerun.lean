import BenchCharts.Proofs.Plot.Independent

namespace BenchCharts.Plot
open Files

variable {t made after later : Tree} {base place : Place} {plot : Plot} {plots : List Plot} {chart : BarChart}
  {charts drawn : List BarChart} {dataDir plotDir : String} {events : List Event} {writes : List Write}
  {written : List String}

def told (dataDir plotDir : String) (made : Tree) (plot : Plot) : List Event :=
  match plot.summarise dataDir made with
  | ⟨seen, .ok (path, charts)⟩ => seen ++ .charted charts.length path :: charts.flatMap (chartEvents plotDir)
  | ⟨seen, .error _⟩ => seen

section Runs

variable (leads : made.Leads plotDir base)

include leads

theorem ChartStep.painted (painted : Painted base made drawn t) (plain : Plain (chart.name ++ ".svg"))
    (step : ChartStep plotDir t chart writes after) : Painted base made (drawn ++ [chart]) after := by
  cases step with
  | skipped empty => exact painted.skip plain empty
  | drawn bars coloured wrote =>
    obtain ⟨place, resolved, free, rfl⟩ := Tree.write_ok wrote
    cases ((painted.leads leads).file _ plain).symm.trans resolved
    exact painted.draw plain bars coloured (mt painted.directory.mpr free)

theorem ChartRuns.painted (painted : Painted base made drawn t) (named : ∀ chart ∈ charts, Plain (chart.name ++ ".svg"))
    (run : ChartRuns plotDir t charts writes after) : Painted base made (drawn ++ charts) after := by
  induction run generalizing drawn with
  | nil => simpa using painted
  | cons step _ ih =>
    obtain ⟨here, others⟩ := List.forall_mem_cons.mp named
    simpa using ih (step.painted leads painted here) others

-- Every plot finds what it would have found at first, whatever the plots before it have drawn.
theorem PlotRuns.settled (painted : Painted base made drawn t)
    (ready : t = made ∨ ∃ names, made.list dataDir = .ok names)
    (run : PlotRuns dataDir plotDir t plots charts events writes after) :
    charts = plots.flatMap (chartsIn dataDir made) ∧ events = plots.flatMap (told dataDir plotDir made) ∧
      Painted base made (drawn ++ charts) after := by
  induction run generalizing drawn with
  | nil => simpa using painted
  | @cons t plot seen path charts first middle plots more events rest after charted run _ ih =>
    rw [summarise_painted painted ready] at charted
    have read := congrArg Logged.result charted
    obtain ⟨rfl, rfl, done⟩ := ih (run.painted leads painted (summarise_named read).2) (.inr (summarise_listed read))
    refine ⟨?_, ?_, by simpa using done⟩
    · rw [List.flatMap_cons, chartsIn_ok read]
    · simp [told, charted]

theorem ChartStep.overwritten (painted : Painted base made drawn t) (plain : Plain (chart.name ++ ".svg"))
    (held : chart.bars ≠ [] → chart.place base ∈ t.places) (step : ChartStep plotDir t chart writes after) :
    Tree.Overwritten t after := by
  cases step with
  | skipped empty => exact .refl
  | drawn bars coloured wrote =>
    obtain ⟨place, resolved, _, rfl⟩ := Tree.write_ok wrote
    cases ((painted.leads leads).file _ plain).symm.trans resolved
    exact Tree.put_overwritten (place_inside base chart) (held bars)

-- Charts that are drawn over files add nothing to the tree.
theorem ChartRuns.overwritten (painted : Painted base made drawn t)
    (named : ∀ chart ∈ charts, Plain (chart.name ++ ".svg"))
    (held : ∀ chart ∈ charts, chart.bars ≠ [] → chart.place base ∈ t.places)
    (run : ChartRuns plotDir t charts writes after) : Tree.Overwritten t after := by
  induction run generalizing drawn with
  | nil => exact .refl
  | cons step _ ih =>
    obtain ⟨plain, others⟩ := List.forall_mem_cons.mp named
    obtain ⟨here, there⟩ := List.forall_mem_cons.mp held
    have redone := step.overwritten leads painted plain here
    exact redone.trans (ih (step.painted leads painted plain) others (redone.places ▸ there))

end Runs

theorem drawn_settled (asked : plots ≠ []) (making : t.makeDirectories plotDir = .ok made)
    (leads : made.Leads plotDir base) (ran : drawAll plots dataDir plotDir t = (after, ⟨events, .ok written⟩)) :
    events = plots.flatMap (told dataDir plotDir made) ∧
      ∃ writes, PlotRuns dataDir plotDir made plots (plots.flatMap (chartsIn dataDir made)) events writes after := by
  obtain ⟨charts, writes, run, _⟩ := drawAll_exact.mp ran
  cases run with
  | idle => exact absurd rfl asked
  | drew _ making' run =>
    cases making.symm.trans making'
    obtain ⟨rfl, reported, _⟩ := run.settled leads .start (.inl rfl)
    exact ⟨reported, writes, run⟩

section Again

variable (leads : made.Leads plotDir base) (painted : Painted base made charts t)

include leads painted

theorem trial_painted (plain : Plain (chart.name ++ ".svg")) : chart.trial plotDir t = chart.trial plotDir made := by
  have here : chart.trial plotDir t = ((chart.render (chart.path plotDir)).outcome t).2 := rfl
  rcases render_painted leads plain painted with ⟨failure, refused, rendered⟩ | ⟨drawable, next, rendered, _⟩
  · rw [here, rendered, refused]
  · rw [here, rendered, drawable]

theorem Clear.again (clear : plot.Clear dataDir plotDir made) : plot.Clear dataDir plotDir t ∧
    plot.chartsIn dataDir t = plot.chartsIn dataDir made ∧ plot.told dataDir plotDir t = plot.told dataDir plotDir made := by
  obtain ⟨path, charted⟩ := clear.read
  have same := summarise_painted painted (.inr (summarise_listed charted)) plot
  have charts : plot.chartsIn dataDir t = plot.chartsIn dataDir made := by
    unfold chartsIn
    rw [same]
  refine ⟨⟨⟨path, by rw [same, charts, charted]⟩, ?_⟩, charts, by unfold told; rw [same]⟩
  intro chart member
  rw [charts] at member
  rw [trial_painted leads painted ((summarise_named charted).2 chart member)]
  exact clear.drawable chart member

end Again

theorem Painted.held (painted : Painted base made charts t) (member : chart ∈ charts) (bars : chart.bars ≠ []) :
    chart.place base ∈ t.places := by
  rw [Tree.mem_places (place_inside base chart), painted.shown]
  cases found : lastAt? base (chart.place base) charts with
  | none => exact absurd rfl (lastAt_none.mp found chart member bars)
  | some last => rfl

theorem Painted.twice (painted : Painted base made charts t) (again : Painted base t charts later) (place : Place) :
    later.at? place = t.at? place := by
  rw [again.shown, painted.shown]
  cases lastAt? base place charts <;> rfl

-- A run that succeeds once more gives the same paths, reports the same and leaves the tree as it is.
theorem rerun_unchanged (ran : drawAll plots dataDir plotDir t = (after, ⟨events, .ok written⟩)) :
    drawAll plots dataDir plotDir after = (after, ⟨events, .ok written⟩) := by
  by_cases idle : plots = []
  · subst idle
    cases ran
    rfl
  obtain ⟨made, base, making, leads, clear, rfl, painted⟩ := drawn_clear idle ran
  have there := Tree.makeDirectories_again making painted.keeps
  have clear' := fun plot member => (clear plot member).again leads painted
  obtain ⟨later, events', again, painted'⟩ :=
    clear_drawn idle there (painted.leads leads) fun plot member => (clear' plot member).1
  obtain ⟨reported, _⟩ := drawn_settled idle making leads ran
  obtain ⟨reported', writes, run⟩ := drawn_settled idle there (painted.leads leads) again
  have sameCharts : plots.flatMap (chartsIn dataDir after) = plots.flatMap (chartsIn dataDir made) :=
    List.flatMap_congr fun plot member => (clear' plot member).2.1
  have sameEvents : events' = events := by
    rw [reported, reported']
    exact List.flatMap_congr fun plot member => (clear' plot member).2.2
  rw [sameCharts] at painted' run
  have redone := run.chartRuns.overwritten (painted.leads leads) .start run.named fun chart => painted.held
  have sameTree : later = after := redone.same (painted.twice painted')
  rw [again, sameTree, sameEvents]

theorem pair_drawn : ∃ after events,
    drawAll pairConfig.plots "data" "data" pairTree = (after, ⟨events, .ok ["data/size.svg", "data/build.svg"]⟩) := by
  obtain ⟨made, making, clear⟩ := pair_clear
  obtain ⟨base, leads⟩ := Tree.makeDirectories_leads making
  have asked : pairConfig.plots ≠ [] := List.cons_ne_nil _ _
  obtain ⟨after, events, ran, _⟩ := clear_drawn asked making leads clear
  have written : pairConfig.plots.flatMap (paths "data") = ["data/size.svg", "data/build.svg"] := by decide +kernel
  rw [written] at ran
  exact ⟨after, events, ran⟩

theorem rerun_unchanged_pair : ∃ after events,
    drawAll pairConfig.plots "data" "data" pairTree = (after, ⟨events, .ok ["data/size.svg", "data/build.svg"]⟩) ∧
    drawAll pairConfig.plots "data" "data" after = (after, ⟨events, .ok ["data/size.svg", "data/build.svg"]⟩) := by
  obtain ⟨after, events, ran⟩ := pair_drawn
  exact ⟨after, events, ran, rerun_unchanged ran⟩

end BenchCharts.Plot
