import BenchCharts.Plot.Summarise
import BenchCharts.Proofs.Aggregation.RowByRow
import BenchCharts.Proofs.Files.Path
import BenchCharts.Proofs.Work

namespace BenchCharts

-- The path that an event tells of as written.
def Event.written? : Event → Option String
  | .wrote path => some path
  | _ => none

namespace Logged

variable {ε ε' α β : Type} {x : Logged ε α} {f : α → Logged ε β}

def Quiet (x : Logged ε α) : Prop := ∀ event ∈ x.events, event.written? = none

theorem quiet_of (result : Except ε α) : (of result).Quiet := nofun

theorem quiet_pure (a : α) : (pure a : Logged ε α).Quiet := nofun

theorem quiet_note {event : Event} (silent : event.written? = none) : (note event : Logged ε Unit).Quiet := by
  intro other member
  cases List.mem_singleton.mp member
  exact silent

theorem Quiet.mapError {g : ε → ε'} (quiet : x.Quiet) : (x.mapError g).Quiet := quiet

theorem Quiet.bind (quiet : x.Quiet) (rest : ∀ a, (f a).Quiet) : (x >>= f).Quiet := by
  intro event member
  change event ∈ (andThen x f).events at member
  unfold andThen at member
  split at member
  · exact quiet event member
  · rename_i a _
    rcases List.mem_append.mp member with early | late
    · exact quiet event early
    · exact rest a event late

end Logged

open Logged

theorem Dataset.latestOutput_quiet (t : Files.Tree) (directory name : String) :
    (latestOutput t directory name).Quiet := by
  have listed : (outputs t directory name).Quiet := by
    refine (quiet_of _).bind ?_
    intro found
    dsimp only
    split
    · exact (quiet_note rfl).bind fun _ => quiet_pure _
    · exact quiet_pure _
  refine listed.bind fun found => (quiet_of _).bind fun path => ?_
  exact (quiet_note rfl).bind fun _ => quiet_pure _

theorem Table.load_quiet (t : Files.Tree) (path : String) : (Table.load t path).Quiet :=
  (quiet_of _).bind fun _ => (quiet_note rfl).bind fun _ => quiet_pure _

theorem Aggregation.logged_quiet (a : Aggregation) (t : Table) : (a.logged t).Quiet := by
  unfold logged
  split
  · exact quiet_of _
  · intro event member
    rcases List.mem_append.mp member with dropped | aggregated
    · split at dropped
      · cases List.mem_singleton.mp dropped
        rfl
      · cases dropped
    · cases List.mem_singleton.mp aggregated
      rfl

namespace Plot

theorem workloadCharts_quiet (summary : Summary) (workloads : List Workload) :
    (workloadCharts summary workloads).Quiet := by
  induction workloads with
  | nil => exact quiet_pure _
  | cons w rest ih =>
    exact (quiet_of _).bind fun _ => (quiet_note rfl).bind fun _ => ih.bind fun _ => quiet_pure _

theorem charts_quiet (p : Plot) (t : Table) : (p.charts t).Quiet := by
  refine (Aggregation.logged_quiet _ t).mapError.bind ?_
  intro summary
  cases p with
  | buildTime warmup => exact (quiet_of _).bind fun _ => (quiet_note rfl).bind fun _ => quiet_pure _
  | runtime warmup => exact workloadCharts_quiet summary workloads
  | binarySize headroom => exact (quiet_of _).bind fun _ => (quiet_note rfl).bind fun _ => quiet_pure _

theorem summarise_quiet (p : Plot) (dataDir : String) (t : Files.Tree) : (p.summarise dataDir t).Quiet := by
  refine (Dataset.latestOutput_quiet t dataDir p.dataset).mapError.bind fun path => ?_
  refine (Table.load_quiet t path).mapError.bind fun table => ?_
  exact (charts_quiet p table).mapError.bind fun _ => quiet_pure _

end Plot

variable {t : Table} {s : Summary} {metric : String} {bars : List Bar}

theorem Aggregation.logged_ok {a : Aggregation} (ran : (a.logged t).result = .ok s) : a.summarise t = .ok s := by
  unfold logged at ran
  split at ran
  · cases ran
  · rename_i kept summary done
    cases ran
    rw [summarise, done]
    rfl

theorem Aggregation.groups_empty {a : Aggregation} (ran : a.summarise t = .ok s) :
    s.groups = [] ↔ a.keptRows t = [] := by
  constructor
  · intro empty
    rw [List.eq_nil_iff_forall_not_mem]
    intro row kept
    obtain ⟨group, member, _⟩ := row_grouped ran kept
    rw [Summary.labels, empty] at member
    cases member
  · intro dropped
    have unlabelled : s.labels = [] := by
      rw [List.eq_nil_iff_forall_not_mem]
      intro group member
      obtain ⟨row, kept, _⟩ := (mem_labels ran group).mp member
      rw [dropped] at kept
      cases kept
    exact List.map_eq_nil_iff.mp unlabelled

theorem Summary.ranked_empty (ran : s.ranked metric = .ok bars) : bars = [] ↔ s.groups = [] := by
  unfold ranked at ran
  split at ran
  · cases ran
  · cases ran
    rw [← List.length_eq_zero_iff, List.length_mergeSort, List.length_map, List.length_eq_zero_iff]

theorem Summary.ranked_labels (ran : s.ranked metric = .ok bars) : (bars.map (·.label)).Perm s.labels := by
  unfold ranked at ran
  split at ran
  · cases ran
  · cases ran
    refine ((List.mergeSort_perm _ _).map _).trans ?_
    rw [List.map_map]
    exact List.Perm.refl _

namespace Plot

variable {charts : List BarChart}

theorem aggregation_groupBy (p : Plot) : p.aggregation.groupBy = nameColumn := by
  cases p <;> rfl

def chartNames : Plot → List String
  | .buildTime _ => ["build"]
  | .runtime _ => workloads.map (·.chart)
  | .binarySize _ => ["size"]

theorem chartNames_filled (p : Plot) : p.chartNames ≠ [] := by
  cases p <;> simp [chartNames, workloads]

theorem chartNames_plain (p : Plot) : ∀ name ∈ p.chartNames, Files.Plain (name ++ ".svg") := by
  cases p with
  | buildTime warmup =>
    show ∀ name ∈ ["build"], _
    decide
  | runtime warmup =>
    show ∀ name ∈ workloads.map (·.chart), _
    decide
  | binarySize headroom =>
    show ∀ name ∈ ["size"], _
    decide

-- One chart a name and a metric, with the bars of that metric.
def Charted (names metrics : List String) (s : Summary) (charts : List BarChart) : Prop :=
  charts.map (·.name) = names ∧ metrics.map s.ranked = charts.map fun chart => .ok chart.bars

theorem Charted.nil : Charted [] [] s [] := ⟨rfl, rfl⟩

theorem Charted.cons {chart : BarChart} {name : String} {names metrics : List String} (named : chart.name = name)
    (ranked : s.ranked metric = .ok chart.bars) (rest : Charted names metrics s charts) :
    Charted (name :: names) (metric :: metrics) s (chart :: charts) :=
  ⟨by rw [List.map_cons, named, rest.1], by rw [List.map_cons, ranked, rest.2, List.map_cons]⟩

theorem Charted.ranked {chart : BarChart} {names metrics : List String} (charted : Charted names metrics s charts)
    (member : chart ∈ charts) : ∃ metric, s.ranked metric = .ok chart.bars := by
  have listed : .ok chart.bars ∈ metrics.map s.ranked := by
    rw [charted.2]
    exact List.mem_map_of_mem member
  obtain ⟨metric, _, ranked⟩ := List.mem_map.mp listed
  exact ⟨metric, ranked⟩

theorem chartOf_name (w : Workload) (bars : List Bar) : (w.chartOf bars).name = w.chart := by
  unfold Workload.chartOf
  cases w.axis <;> rfl

theorem chartOf_bars (w : Workload) (bars : List Bar) : (w.chartOf bars).bars = bars := by
  unfold Workload.chartOf
  cases w.axis <;> rfl

theorem workloadCharts_charted {workloads : List Workload} (ran : (workloadCharts s workloads).result = .ok charts) :
    Charted (workloads.map (·.chart)) (workloads.map (·.column)) s charts := by
  induction workloads generalizing charts with
  | nil =>
    cases ran
    exact .nil
  | cons w rest ih =>
    obtain ⟨bars, ranked, noted⟩ := Logged.bind_ok.mp ran
    obtain ⟨_, _, drawn⟩ := Logged.bind_ok.mp noted
    obtain ⟨later, others, made⟩ := Logged.bind_ok.mp drawn
    cases made
    have filled : s.ranked w.column = .ok (w.chartOf bars).bars := by
      rw [chartOf_bars]
      exact mapError_ok.mp ranked
    exact .cons (chartOf_name w bars) filled (ih others)

theorem chartsOf_charted {p : Plot} (ran : (p.chartsOf s).result = .ok charts) :
    Charted p.chartNames p.aggregation.metrics s charts := by
  cases p with
  | runtime warmup => exact workloadCharts_charted ran
  | buildTime warmup =>
    obtain ⟨bars, ranked, noted⟩ := Logged.bind_ok.mp ran
    obtain ⟨_, _, made⟩ := Logged.bind_ok.mp noted
    cases made
    exact .cons rfl (mapError_ok.mp ranked) .nil
  | binarySize headroom =>
    obtain ⟨bars, ranked, noted⟩ := Logged.bind_ok.mp ran
    obtain ⟨_, _, made⟩ := Logged.bind_ok.mp noted
    cases made
    exact .cons rfl (mapError_ok.mp ranked) .nil

theorem charts_charted {p : Plot} (ran : (p.charts t).result = .ok charts) :
    ∃ s, p.aggregation.summarise t = .ok s ∧ Charted p.chartNames p.aggregation.metrics s charts := by
  obtain ⟨s, aggregated, drawn⟩ := Logged.bind_ok.mp ran
  exact ⟨s, Aggregation.logged_ok (Logged.mapError_ok.mp aggregated), chartsOf_charted drawn⟩

theorem charts_ok {p : Plot} (ran : (p.charts t).result = .ok charts) : charts.map (·.name) = p.chartNames ∧
    ∀ chart ∈ charts, chart.bars = [] ↔ p.aggregation.keptRows t = [] := by
  obtain ⟨s, summarised, charted⟩ := charts_charted ran
  refine ⟨charted.1, ?_⟩
  intro chart member
  obtain ⟨metric, bars⟩ := charted.ranked member
  rw [Summary.ranked_empty bars, Aggregation.groups_empty summarised]

theorem charts_plain {p : Plot} (ran : (p.charts t).result = .ok charts) :
    ∀ chart ∈ charts, Files.Plain (chart.name ++ ".svg") := by
  intro chart member
  refine chartNames_plain p chart.name ?_
  rw [← (charts_ok ran).1]
  exact List.mem_map_of_mem member

theorem summarise_ok {p : Plot} {dataDir path : String} {tree : Files.Tree}
    (ran : (p.summarise dataDir tree).result = .ok (path, charts)) :
    ∃ table, (Dataset.latestOutput tree dataDir p.dataset).result = .ok path ∧
      (Table.load tree path).result = .ok table ∧ (p.charts table).result = .ok charts := by
  obtain ⟨found, located, loading⟩ := Logged.bind_ok.mp ran
  obtain ⟨table, loaded, charting⟩ := Logged.bind_ok.mp loading
  obtain ⟨made, charted, given⟩ := Logged.bind_ok.mp charting
  cases given
  exact ⟨table, Logged.mapError_ok.mp located, Logged.mapError_ok.mp loaded, Logged.mapError_ok.mp charted⟩

theorem summarise_of {p : Plot} {dataDir path : String} {tree : Files.Tree} {table : Table}
    (located : (Dataset.latestOutput tree dataDir p.dataset).result = .ok path)
    (loaded : (Table.load tree path).result = .ok table) (charted : (p.charts table).result = .ok charts) :
    (p.summarise dataDir tree).result = .ok (path, charts) := by
  refine Logged.bind_ok.mpr ⟨path, Logged.mapError_ok.mpr located, ?_⟩
  refine Logged.bind_ok.mpr ⟨table, Logged.mapError_ok.mpr loaded, ?_⟩
  exact Logged.bind_ok.mpr ⟨charts, Logged.mapError_ok.mpr charted, rfl⟩

end Plot
end BenchCharts
