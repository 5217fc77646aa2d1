import BenchCharts.Proofs.Plot.Painted

namespace BenchCharts
open Files

namespace Project

def Known (label : String) : Prop := ∃ project ∈ all, label = project.id ∨ label = project.name

instance (label : String) : Decidable (Known label) :=
  inferInstanceAs (Decidable (∃ project ∈ all, label = project.id ∨ label = project.name))

variable {label : String} {fault : Fault}

theorem colourOf_ok : (∃ colour, colourOf label = .ok colour) ↔ ∃ project ∈ all, project.name = label := by
  unfold colourOf
  cases found : all.find? (·.name == label) with
  | none =>
    refine iff_of_false nofun ?_
    intro ⟨project, member, same⟩
    exact List.find?_eq_none.mp found project member (beq_iff_eq.mpr same)
  | some project =>
    have same : project.name = label := by simpa using List.find?_some found
    exact iff_of_true ⟨_, rfl⟩ ⟨project, List.mem_of_find?_eq_some found, same⟩

theorem colourOf_error (failed : colourOf label = .error fault) : fault = .unknownProject label := by
  unfold colourOf at failed
  split at failed
  · cases failed
  · cases failed
    rfl

theorem displayName_known : (∃ colour, colourOf (displayName label) = .ok colour) ↔ Known label := by
  rw [colourOf_ok, displayName]
  cases found : byId? label with
  | some project =>
    have member := List.mem_of_find?_eq_some found
    have same : project.id = label := by simpa using List.find?_some found
    exact iff_of_true ⟨project, member, rfl⟩ ⟨project, member, .inl same.symm⟩
  | none =>
    constructor
    · intro ⟨project, member, same⟩
      exact ⟨project, member, .inr same.symm⟩
    · intro ⟨project, member, named⟩
      rcases named with id | name
      · exact absurd (beq_iff_eq.mpr id.symm) (List.find?_eq_none.mp found project member)
      · exact ⟨project, member, name.symm⟩

-- No project goes by the name of another, so a name that is shown stays as it is.
theorem displayName_shown (label : String) : displayName (displayName label) = displayName label := by
  have names : ∀ project ∈ all, byId? project.name = none := by decide
  cases found : byId? label with
  | none =>
    have same : displayName label = label := by
      rw [displayName, found]
      rfl
    rw [same, same]
  | some project =>
    have same : displayName label = project.name := by
      rw [displayName, found]
      rfl
    rw [same, displayName, names project (List.mem_of_find?_eq_some found)]
    rfl

end Project

namespace Plot

variable {p : Plot} {table : Table} {s : Summary} {t : Tree} {chart : BarChart} {charts : List BarChart}
  {plotDir metric : String}

def RowKnown (table : Table) (row : Nat) : Prop := ∃ label, table.text? nameColumn row = some label ∧ Project.Known label

-- The first label in a row of labels that stands for no project.
def FirstUnknown (labels : List String) (label : String) : Prop :=
  ∃ before later, labels = before ++ label :: later ∧ (∀ known ∈ before, Project.Known known) ∧ ¬Project.Known label

section Labels

variable (summarised : p.aggregation.summarise table = .ok s) (ranked : s.ranked metric = .ok chart.bars)

include summarised ranked

theorem mem_bars {label : String} : label ∈ chart.bars.map (·.label) ↔
    ∃ row ∈ p.aggregation.keptRows table, ∃ id, table.text? nameColumn row = some id ∧ Project.displayName id = label := by
  rw [(Summary.ranked_labels ranked).mem_iff, Aggregation.mem_labels summarised]
  simp only [Aggregation.groupAt?, p.aggregation_groupBy, Option.map_eq_some_iff]

theorem colours_known : (∃ colours, chart.colours = .ok colours) ↔
    ∀ row ∈ p.aggregation.keptRows table, RowKnown table row := by
  constructor
  · intro ⟨colours, coloured⟩ row kept
    obtain ⟨group, _, grouped⟩ := Aggregation.row_grouped summarised kept
    rw [Aggregation.groupAt?, p.aggregation_groupBy] at grouped
    obtain ⟨id, held, shown⟩ := Option.map_eq_some_iff.mp grouped
    obtain ⟨bar, member, same⟩ := List.mem_map.mp ((mem_bars summarised ranked).mpr ⟨row, kept, id, held, shown⟩)
    have mapped : Project.colourOf bar.label ∈ colours.map .ok := by
      rw [← mapM_ok.mp coloured]
      exact List.mem_map_of_mem member
    obtain ⟨colour, _, given⟩ := List.mem_map.mp mapped
    refine ⟨id, held, Project.displayName_known.mp ⟨colour, ?_⟩⟩
    rw [shown, ← same, given]
  · intro known
    refine mapM_total ?_
    intro bar member
    obtain ⟨row, kept, id, held, shown⟩ := (mem_bars summarised ranked).mp (List.mem_map_of_mem member)
    obtain ⟨label, held', project⟩ := known row kept
    cases held.symm.trans held'
    rw [← shown]
    exact Project.displayName_known.mpr project

theorem uncoloured_first (unknown : ¬∀ row ∈ p.aggregation.keptRows table, RowKnown table row) :
    ∃ label, FirstUnknown (chart.bars.map (·.label)) label ∧ chart.colours = .error (.unknownProject label) := by
  have exactly : ∀ bar ∈ chart.bars, (∃ colour, Project.colourOf bar.label = .ok colour) ↔ Project.Known bar.label := by
    intro bar member
    obtain ⟨_, _, id, _, shown⟩ := (mem_bars summarised ranked).mp (List.mem_map_of_mem member)
    rw [← Project.displayName_known, ← shown, Project.displayName_shown]
  rcases first_failure (fun bar : Bar => Project.colourOf bar.label) chart.bars with all | stopped
  · exact absurd ((colours_known summarised ranked).mp (mapM_total all)) unknown
  · obtain ⟨before, bar, later, fault, split, early, failed⟩ := stopped
    rw [split] at exactly
    refine ⟨bar.label, ⟨before.map (·.label), later.map (·.label), by rw [split]; simp, ?_, ?_⟩, ?_⟩
    · intro known member
      obtain ⟨other, listed, rfl⟩ := List.mem_map.mp member
      exact (exactly other (List.mem_append_left _ listed)).mp (early other listed)
    · intro known
      obtain ⟨colour, given⟩ := (exactly bar (List.mem_append_right _ List.mem_cons_self)).mpr known
      rw [failed] at given
      cases given
    · rw [BarChart.colours, split, mapM_stop early failed, Project.colourOf_error failed]

end Labels

section Drawing

variable (built : (p.charts table).result = .ok charts) (writable : ∀ chart ∈ charts, t.Writable (chart.path plotDir))

include built

theorem charts_first : ∃ first rest, charts = first :: rest := by
  refine List.exists_cons_of_ne_nil ?_
  rintro rfl
  exact p.chartNames_filled (charts_ok built).1.symm

include writable

theorem charts_lead : ∃ base, t.Leads plotDir base := by
  obtain ⟨first, rest, rfl⟩ := charts_first built
  exact Tree.writable_leads (charts_plain built first List.mem_cons_self) (writable first List.mem_cons_self)

theorem known_drawn (known : ∀ row ∈ p.aggregation.keptRows table, RowKnown table row) :
    ∃ after, (drawCharts plotDir charts).outcome t = (after, .ok (charts.map (·.path plotDir))) := by
  obtain ⟨s, summarised, charted⟩ := charts_charted built
  obtain ⟨base, leads⟩ := charts_lead built writable
  have drawable : ∀ chart ∈ charts, chart.trial plotDir t = .ok () := by
    intro chart member
    obtain ⟨metric, bars⟩ := charted.ranked member
    obtain ⟨colours, coloured⟩ := (colours_known summarised bars).mpr known
    have plain := charts_plain built chart member
    exact trial_free leads plain coloured (Tree.writable_free leads plain (writable chart member))
  obtain ⟨after, drawn, _⟩ := drawCharts_all leads .start drawable (charts_plain built)
  exact ⟨after, drawn⟩

-- The first chart is that of the first metric, and its bars are in the order of their ranks.
theorem unknown_undrawn (unknown : ¬∀ row ∈ p.aggregation.keptRows table, RowKnown table row) :
    ∃ s metric first rest label events, p.aggregation.summarise table = .ok s ∧
      p.aggregation.metrics.head? = some metric ∧ charts = first :: rest ∧ s.ranked metric = .ok first.bars ∧
      FirstUnknown (first.bars.map (·.label)) label ∧
      drawCharts plotDir charts t = (t, ⟨events,
        .error ((Failure.ofFault (.unknownProject label)).within (.rendering (first.path plotDir)))⟩) := by
  obtain ⟨s, summarised, _, ranked⟩ := charts_charted built
  obtain ⟨base, leads⟩ := charts_lead built writable
  obtain ⟨first, rest, rfl⟩ := charts_first built
  rw [List.map_cons] at ranked
  obtain ⟨metric, metrics, split, bars, _⟩ := List.map_eq_cons_iff.mp ranked
  obtain ⟨label, earliest, uncoloured⟩ := uncoloured_first summarised bars unknown
  have undrawn : (drawCharts plotDir (first :: rest)).outcome t = _ :=
    drawCharts_refused leads .start (charts_plain built first List.mem_cons_self) (trial_uncoloured uncoloured)
  obtain ⟨events, ran⟩ := Work.outcome_exact.mp undrawn
  exact ⟨s, metric, first, rest, label, events, summarised, by rw [split]; rfl, rfl, bars, earliest, ran⟩

end Drawing

-- The charts of a plot are all drawn or not one of them, as its kept rows have projects or not.
theorem drawn_iff_known (built : (p.charts table).result = .ok charts)
    (writable : ∀ chart ∈ charts, t.Writable (chart.path plotDir)) :
    ((∃ after events, drawCharts plotDir charts t = (after, ⟨events, .ok (charts.map (·.path plotDir))⟩)) ↔
      ∀ row ∈ p.aggregation.keptRows table, RowKnown table row) ∧
    ((¬∀ row ∈ p.aggregation.keptRows table, RowKnown table row) →
      ∃ s metric first rest label events, p.aggregation.summarise table = .ok s ∧
        p.aggregation.metrics.head? = some metric ∧ charts = first :: rest ∧ s.ranked metric = .ok first.bars ∧
        FirstUnknown (first.bars.map (·.label)) label ∧
        drawCharts plotDir charts t = (t, ⟨events,
          .error ((Failure.ofFault (.unknownProject label)).within (.rendering (first.path plotDir)))⟩)) := by
  refine ⟨⟨?_, ?_⟩, unknown_undrawn built writable⟩
  · intro ⟨after, events, ran⟩
    by_contra unknown
    obtain ⟨_, _, _, _, _, _, _, _, _, _, _, refused⟩ := unknown_undrawn built writable unknown
    rw [ran] at refused
    cases refused
  · intro known
    obtain ⟨after, drawn⟩ := known_drawn built writable known
    exact ⟨after, Work.outcome_exact.mp drawn⟩

-- A warm-up row of a project, and a row of no project.
def strangerTimes : Table :=
  .ofRows ("name" :: "iteration" :: workloads.map (·.column)) [["jvm", "0", "1", "1", "1"], ["kotlin", "3", "1", "2", "3"]]

def plotsTree : Tree := Tree.empty.plant [Text.Utf8.encode "plots"] .directory

theorem drawn_iff_known_stranger : ∃ charts events, ((Plot.runtime 3).charts strangerTimes).result = .ok charts ∧
    charts.map (·.name) = ["runtime-fib", "runtime-gcd", "runtime-sum"] ∧
    (∀ chart ∈ charts, plotsTree.Writable (chart.path "plots")) ∧
    drawCharts "plots" charts plotsTree = (plotsTree, ⟨events,
      .error ((Failure.ofFault (.unknownProject "kotlin")).within (.rendering "plots/runtime-fib.svg"))⟩) := by
  have given : (((Plot.runtime 3).charts strangerTimes).result.toOption.map
      (·.map fun chart => (chart.name, chart.bars.map (·.label)))) =
      some [("runtime-fib", ["kotlin"]), ("runtime-gcd", ["kotlin"]), ("runtime-sum", ["kotlin"])] := by
    decide +kernel
  obtain ⟨charts, made, shown⟩ := Option.map_eq_some_iff.mp given
  have built := toOption_ok.mp made
  have names : charts.map (·.name) = ["runtime-fib", "runtime-gcd", "runtime-sum"] := by
    simpa [Function.comp_def] using congrArg (·.map Prod.fst) shown
  have writable : ∀ chart ∈ charts, plotsTree.Writable (chart.path "plots") := by
    have free : ∀ name ∈ ["runtime-fib", "runtime-gcd", "runtime-sum"],
        (plotsTree.write (joinPath "plots" (name ++ ".svg")) (.bytes [])).toOption.isSome = true := by decide +kernel
    intro chart member
    obtain ⟨next, wrote⟩ := Option.isSome_iff_exists.mp (free chart.name (names ▸ List.mem_map_of_mem member))
    exact ⟨_, next, toOption_ok.mp wrote⟩
  have unknown : ¬∀ row ∈ (Plot.runtime 3).aggregation.keptRows strangerTimes, RowKnown strangerTimes row := by
    intro known
    obtain ⟨label, held, project⟩ := known 1 (by decide +kernel)
    have same : strangerTimes.text? nameColumn 1 = some "kotlin" := by decide +kernel
    cases held.symm.trans same
    exact absurd project (by decide)
  obtain ⟨_, _, first, rest, label, events, _, _, split, _, ⟨before, later, labels, _⟩, ran⟩ :=
    (drawn_iff_known built writable).2 unknown
  rw [split, List.map_cons] at shown
  obtain ⟨here, _⟩ := List.cons.inj shown
  obtain ⟨name, bars⟩ := Prod.mk.inj here
  rw [labels] at bars
  have kotlin : label = "kotlin" := by
    have member : label ∈ ["kotlin"] := by
      rw [← bars]
      exact List.mem_append_right _ List.mem_cons_self
    exact List.mem_singleton.mp member
  have path : first.path "plots" = "plots/runtime-fib.svg" := by
    rw [BarChart.path, name]
    decide +kernel
  rw [kotlin, path] at ran
  exact ⟨charts, events, built, names, writable, ran⟩

end Plot
end BenchCharts
