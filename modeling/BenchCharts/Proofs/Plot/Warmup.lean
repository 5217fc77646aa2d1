import BenchCharts.Proofs.Aggregation.Identifiers
import BenchCharts.Proofs.Number.Order
import BenchCharts.Proofs.Plot.Charts

namespace BenchCharts

namespace Sheet

variable {s r : Sheet} {name : String} {values : List Float} {w : UInt64}

-- Before the first iteration that counts, or at no iteration.
def isWarmup (s : Sheet) (w : UInt64) (row : List String) : Bool :=
  (Cells.number? (s.cell Plot.iterationColumn row)).any fun i => i.isNaN || i < w.toFloat

def measured (s : Sheet) (w : UInt64) : List (List String) := s.rows.filter fun row => !s.isWarmup w row

theorem number_cell (numeric : s.table.numeric name = .ok values) {row : List String} (member : row ∈ s.rows) :
    ∃ x, Cells.number? (s.cell name row) = some x := by
  have listed : Cells.number? (s.cell name row) ∈ values.map some := by
    rw [← (numeric_ok.mp numeric).2]
    exact List.mem_map_of_mem (List.mem_map_of_mem member)
  obtain ⟨x, _, same⟩ := List.mem_map.mp listed
  exact ⟨x, same.symm⟩

theorem kept_measured {a : Aggregation} {g : Aggregation.Grouped} (ran : a.group s.table = .ok g)
    (skips : a.warmup = some ⟨Plot.iterationColumn, w.toFloat⟩) : s.kept a = s.measured w := by
  obtain ⟨values, numeric⟩ := Aggregation.group_warmup ran skips
  apply List.filter_congr
  intro row member
  obtain ⟨i, number⟩ := number_cell numeric member
  have defined : w.toFloat.isNaN = false := Number.toFloat_defined w
  rw [counts, skips, isWarmup]
  dsimp only
  rw [number, Option.any_some, Option.any_some, Bool.eq_iff_iff, decide_eq_true_iff, Number.le_iff defined]
  simp

theorem cell_header (header : s.header = r.header) : s.cell = r.cell := by
  funext name row
  rw [cell, cell, header]

end Sheet

namespace Aggregation

variable {a : Aggregation} {s r : Sheet} {one two : Summary}

def labelled (a : Aggregation) (s : Sheet) : List String :=
  (s.kept a).map fun row => Project.displayName (Cells.shown (s.column a.groupBy) (s.cell a.groupBy row))

theorem summarise_same (header : s.header = r.header) (kept : s.kept a = r.kept a)
    (same : a.labelled s = a.labelled r) (first : a.summarise s.table = .ok one) (second : a.summarise r.table = .ok two) :
    one = two := by
  obtain ⟨g, grouped, rfl⟩ := summarise_ok first
  obtain ⟨h, regrouped, rfl⟩ := summarise_ok second
  obtain ⟨_, rows, columns⟩ := group_sheet grouped
  obtain ⟨_, others, values⟩ := group_sheet regrouped
  have lists : g.rows = h.rows := by rw [rows, others]; exact congrArg rowsByLabel same
  have numbers : g.columns = h.columns := by rw [columns, values, kept, Sheet.cell_header header]
  rw [lists, numbers]

theorem mem_labelled (ran : a.summarise s.table = .ok one) (label : String) :
    label ∈ one.labels ↔ label ∈ a.labelled s := by
  obtain ⟨g, grouped, rfl⟩ := summarise_ok ran
  obtain ⟨_, rows, _⟩ := group_sheet grouped
  rw [Summary.labels, (keys_collect _ _).mem_iff, rows, (keys_rowsByLabel _).2]
  rfl

theorem labelled_eq (header : s.header = r.header) (kept : s.kept a = r.kept a)
    (spelled : Cells.allNumbers (s.column a.groupBy) = Cells.allNumbers (r.column a.groupBy) ∨
      ∀ row ∈ s.kept a, Cells.rewritten (s.cell a.groupBy row) = s.cell a.groupBy row) :
    a.labelled s = a.labelled r := by
  unfold labelled
  rw [← kept, ← Sheet.cell_header header]
  apply List.map_congr_left
  intro row member
  unfold Cells.shown
  rcases spelled with same | fixed
  · rw [same]
  · rw [fixed row member, ite_self, ite_self]

-- Where only one sheet writes its names again, equal labels mean that no name changes.
theorem spelled_numbers (header : s.header = r.header) (kept : s.kept a = r.kept a)
    (numbers : Cells.allNumbers (s.column a.groupBy) = true) (texts : Cells.allNumbers (r.column a.groupBy) = false)
    (same : ∀ label, label ∈ a.labelled s ↔ label ∈ a.labelled r) :
    ∀ row ∈ s.kept a, Cells.rewritten (s.cell a.groupBy row) = s.cell a.groupBy row := by
  have rewritten : a.labelled s =
      ((s.kept a).map (s.cell a.groupBy)).map fun cell => Project.displayName (Cells.rewritten cell) := by
    simp [labelled, Cells.shown, numbers]
  have left : a.labelled r = ((s.kept a).map (s.cell a.groupBy)).map Project.displayName := by
    simp [labelled, Cells.shown, texts, kept, Sheet.cell_header header]
  have all : ∀ cell ∈ (s.kept a).map (s.cell a.groupBy), (Cells.number? cell).isSome = true := by
    intro cell member
    obtain ⟨row, inside, rfl⟩ := List.mem_map.mp member
    exact List.all_eq_true.mp numbers _ (List.mem_map_of_mem (List.mem_filter.mp inside).1)
  rw [rewritten, left] at same
  intro row member
  exact (Cells.same_labels_iff all).mp same _ (List.mem_map_of_mem member)

theorem spelled_of_labels (header : s.header = r.header) (kept : s.kept a = r.kept a)
    (same : ∀ label, label ∈ a.labelled s ↔ label ∈ a.labelled r) :
    Cells.allNumbers (s.column a.groupBy) = Cells.allNumbers (r.column a.groupBy) ∨
      ∀ row ∈ s.kept a, Cells.rewritten (s.cell a.groupBy row) = s.cell a.groupBy row := by
  cases one : Cells.allNumbers (s.column a.groupBy) with
  | true =>
    cases two : Cells.allNumbers (r.column a.groupBy) with
    | true => exact .inl rfl
    | false => exact .inr (spelled_numbers header kept one two same)
  | false =>
    cases two : Cells.allNumbers (r.column a.groupBy) with
    | true =>
      have spelled := spelled_numbers header.symm kept.symm two one fun label => (same label).symm
      rw [← kept, ← Sheet.cell_header header] at spelled
      exact .inr spelled
    | false => exact .inl rfl

end Aggregation

namespace Plot

variable {p : Plot} {w : UInt64} {s r : Sheet} {summary : Summary} {charts drawn : List BarChart}

theorem chartsOf_first (timed : p = .buildTime w ∨ p = .runtime w) (ran : (p.chartsOf summary).result = .ok charts) :
    ∃ metric chart rest, charts = chart :: rest ∧ summary.ranked metric = .ok chart.bars := by
  rcases timed with rfl | rfl
  · obtain ⟨bars, ranked, noted⟩ := Logged.bind_ok.mp ran
    obtain ⟨_, _, made⟩ := Logged.bind_ok.mp noted
    cases made
    exact ⟨_, _, _, rfl, mapError_ok.mp ranked⟩
  · obtain ⟨bars, ranked, noted⟩ := Logged.bind_ok.mp ran
    obtain ⟨_, _, others⟩ := Logged.bind_ok.mp noted
    obtain ⟨_, _, made⟩ := Logged.bind_ok.mp others
    cases made
    exact ⟨_, _, _, rfl, by rw [chartOf_bars]; exact mapError_ok.mp ranked⟩

theorem charts_summarised {t : Table} (ran : (p.charts t).result = .ok charts) :
    ∃ summary, p.aggregation.summarise t = .ok summary ∧ (p.chartsOf summary).result = .ok charts := by
  obtain ⟨summary, aggregated, drawn⟩ := Logged.bind_ok.mp ran
  exact ⟨summary, Aggregation.logged_ok (Logged.mapError_ok.mp aggregated), drawn⟩

theorem charts_same (header : s.header = r.header) (kept : s.kept p.aggregation = r.kept p.aggregation)
    (same : p.aggregation.labelled s = p.aggregation.labelled r) (one : (p.charts s.table).result = .ok charts)
    (two : (p.charts r.table).result = .ok drawn) : charts = drawn := by
  obtain ⟨summary, first, ranked⟩ := charts_summarised one
  obtain ⟨other, second, reranked⟩ := charts_summarised two
  rw [Aggregation.summarise_same header kept same first second] at ranked
  exact Except.ok.inj (ranked.symm.trans reranked)

theorem labelled_same (timed : p = .buildTime w ∨ p = .runtime w) (one : (p.charts s.table).result = .ok charts)
    (two : (p.charts r.table).result = .ok charts) (label : String) :
    label ∈ p.aggregation.labelled s ↔ label ∈ p.aggregation.labelled r := by
  obtain ⟨summary, first, drawn⟩ := charts_summarised one
  obtain ⟨other, second, redrawn⟩ := charts_summarised two
  obtain ⟨_, chart, _, rfl, ranked⟩ := chartsOf_first timed drawn
  obtain ⟨_, _, _, same, reranked⟩ := chartsOf_first timed redrawn
  cases same
  rw [← Aggregation.mem_labelled first, ← Aggregation.mem_labelled second, ← (Summary.ranked_labels ranked).mem_iff,
    ← (Summary.ranked_labels reranked).mem_iff]

theorem timed_aggregation (timed : p = .buildTime w ∨ p = .runtime w) :
    p.aggregation.groupBy = nameColumn ∧ p.aggregation.warmup = some ⟨iterationColumn, w.toFloat⟩ := by
  rcases timed with rfl | rfl <;> exact ⟨rfl, rfl⟩

theorem kept_charted (timed : p = .buildTime w ∨ p = .runtime w) (ran : (p.charts s.table).result = .ok charts) :
    s.kept p.aggregation = s.measured w := by
  obtain ⟨summary, summarised, _⟩ := charts_summarised ran
  obtain ⟨g, grouped, _⟩ := Aggregation.summarise_ok summarised
  exact Sheet.kept_measured grouped (timed_aggregation timed).2

-- Rows of the warm-up may differ between the sheets, in number, place and content.
theorem warmup_irrelevant_iff {source other : String} {bytes others : List UInt8} {t u : Table}
    (timed : p = .buildTime w ∨ p = .runtime w) (read : Table.ofBytes source bytes = .ok t)
    (reread : Table.ofBytes other others = .ok u) (held : s.HeldBy bytes) (reheld : r.HeldBy others)
    (header : s.header = r.header) (rest : s.measured w = r.measured w) (one : (p.charts t).result = .ok charts)
    (two : (p.charts u).result = .ok drawn) :
    charts = drawn ↔ Cells.allNumbers (s.column nameColumn) = Cells.allNumbers (r.column nameColumn) ∨
      ∀ row ∈ s.measured w, Cells.rewritten (s.cell nameColumn row) = s.cell nameColumn row := by
  obtain ⟨_, first, rfl⟩ := Table.ofBytes_exact.mp read
  obtain ⟨_, second, rfl⟩ := Table.ofBytes_exact.mp reread
  cases held.unique first
  cases reheld.unique second
  have kept : s.kept p.aggregation = r.kept p.aggregation := by
    rw [kept_charted timed one, kept_charted timed two, rest]
  have names := (timed_aggregation timed).1
  rw [← kept_charted timed one, ← names]
  constructor
  · rintro rfl
    have same := labelled_same timed one two
    exact Aggregation.spelled_of_labels header kept same
  · intro spelled
    exact charts_same header kept (Aggregation.labelled_eq header kept spelled) one two

def timesOf (rows : List (List String)) (wide : ∀ row ∈ rows, row.length = 3)
    (trimmed : ∀ row ∈ rows, ∀ text ∈ row, Text.Trimmed text) : Sheet where
  header := ["name", "iteration", "build_time_ms"]
  rows := rows
  named := ⟨"name", by simp, by decide⟩
  rectangular := wide
  trimmed := List.forall_mem_cons.mpr ⟨by decide, trimmed⟩

def shownLabels (charts : List BarChart) : List (List String) := charts.map fun chart => chart.bars.map (·.label)

theorem shownLabels_ok {t : Table} {labels : List (List String)}
    (gave : (p.charts t).result.toOption.map shownLabels = some labels) :
    ∃ charts, (p.charts t).result = .ok charts ∧ shownLabels charts = labels := by
  obtain ⟨charts, found, same⟩ := Option.map_eq_some_iff.mp gave
  exact ⟨charts, toOption_ok.mp found, same⟩

-- The same measurements among different rows of the warm-up.
def sampleTimes : Sheet :=
  timesOf [["jvm", "0", "100"], ["jvm", "3", "2000"], ["jvm", "4", "4000"]] (by decide) (by decide)

def sampleTimesOtherwise : Sheet :=
  timesOf [["jvm", "3", "2000"], ["gwt", "", "7"], ["jvm", "4", "4000"], ["2", "nan", ""]] (by decide) (by decide)

theorem warmup_irrelevant_sample : ∃ (t u : Table) (charts : List BarChart),
    Table.ofBytes "build.csv" (Text.Utf8.encode
      "name,iteration,build_time_ms\njvm,0,100\njvm,3,2000\njvm,4,4000\n") = .ok t ∧
      Table.ofBytes "build.csv" (Text.Utf8.encode
        "name,iteration,build_time_ms\njvm,3,2000\ngwt,,7\njvm,4,4000\n2,nan,\n") = .ok u ∧
      sampleTimes.measured 3 = sampleTimesOtherwise.measured 3 ∧
      ((Plot.buildTime 3).charts t).result = .ok charts ∧ ((Plot.buildTime 3).charts u).result = .ok charts ∧
      shownLabels charts = [["JVM"]] := by
  have held : sampleTimes.HeldBy
      (Text.Utf8.encode "name,iteration,build_time_ms\njvm,0,100\njvm,3,2000\njvm,4,4000\n") := by
    unfold Sheet.HeldBy
    decide +kernel
  have reheld : sampleTimesOtherwise.HeldBy
      (Text.Utf8.encode "name,iteration,build_time_ms\njvm,3,2000\ngwt,,7\njvm,4,4000\n2,nan,\n") := by
    unfold Sheet.HeldBy
    decide +kernel
  have measured : sampleTimes.measured 3 = sampleTimesOtherwise.measured 3 := by decide +kernel
  have gave : ((Plot.buildTime 3).charts sampleTimes.table).result.toOption.map shownLabels = some [["JVM"]] := by
    decide +kernel
  have given : ((Plot.buildTime 3).charts sampleTimesOtherwise.table).result.toOption.map shownLabels = some [["JVM"]] := by
    decide +kernel
  obtain ⟨charts, one, labels⟩ := shownLabels_ok gave
  obtain ⟨drawn, two, _⟩ := shownLabels_ok given
  have read : Table.ofBytes "build.csv" _ = .ok _ := Table.ofBytes_exact.mpr ⟨_, held, rfl⟩
  have reread : Table.ofBytes "build.csv" _ = .ok _ := Table.ofBytes_exact.mpr ⟨_, reheld, rfl⟩
  have spelled : Cells.allNumbers (sampleTimes.column nameColumn) =
      Cells.allNumbers (sampleTimesOtherwise.column nameColumn) := by decide +kernel
  have same := (warmup_irrelevant_iff (.inl rfl) read reread held reheld rfl measured one two).mpr (.inl spelled)
  exact ⟨_, _, charts, read, reread, measured, one, same ▸ two, labels⟩

-- One measurement of a project whose name is a number, alone and behind a row of the warm-up.
def numberedTime : Sheet := timesOf [["1.0", "3", "5"]] (by decide) (by decide)

def numberedTimeWarm : Sheet := timesOf [["jvm", "0", "5"], ["1.0", "3", "5"]] (by decide) (by decide)

theorem warmup_name_respells : ∃ (t u : Table) (charts drawn : List BarChart),
    Table.ofBytes "build.csv" (Text.Utf8.encode "name,iteration,build_time_ms\n1.0,3,5\n") = .ok t ∧
      Table.ofBytes "build.csv" (Text.Utf8.encode "name,iteration,build_time_ms\njvm,0,5\n1.0,3,5\n") = .ok u ∧
      numberedTime.HeldBy (Text.Utf8.encode "name,iteration,build_time_ms\n1.0,3,5\n") ∧
      numberedTimeWarm.HeldBy (Text.Utf8.encode "name,iteration,build_time_ms\njvm,0,5\n1.0,3,5\n") ∧
      numberedTime.header = numberedTimeWarm.header ∧ numberedTime.measured 3 = numberedTimeWarm.measured 3 ∧
      ((Plot.buildTime 3).charts t).result = .ok charts ∧ ((Plot.buildTime 3).charts u).result = .ok drawn ∧
      shownLabels charts = [["1"]] ∧ shownLabels drawn = [["1.0"]] ∧ charts ≠ drawn := by
  have held : numberedTime.HeldBy (Text.Utf8.encode "name,iteration,build_time_ms\n1.0,3,5\n") := by
    unfold Sheet.HeldBy
    decide +kernel
  have reheld : numberedTimeWarm.HeldBy
      (Text.Utf8.encode "name,iteration,build_time_ms\njvm,0,5\n1.0,3,5\n") := by
    unfold Sheet.HeldBy
    decide +kernel
  have measured : numberedTime.measured 3 = numberedTimeWarm.measured 3 := by decide +kernel
  have gave : ((Plot.buildTime 3).charts numberedTime.table).result.toOption.map shownLabels = some [["1"]] := by
    decide +kernel
  have given : ((Plot.buildTime 3).charts numberedTimeWarm.table).result.toOption.map shownLabels = some [["1.0"]] := by
    decide +kernel
  obtain ⟨charts, one, labels⟩ := shownLabels_ok gave
  obtain ⟨drawn, two, others⟩ := shownLabels_ok given
  refine ⟨_, _, charts, drawn, Table.ofBytes_exact.mpr ⟨_, held, rfl⟩, Table.ofBytes_exact.mpr ⟨_, reheld, rfl⟩,
    held, reheld, rfl, measured, one, two, labels, others, ?_⟩
  rintro rfl
  rw [labels] at others
  revert others
  decide

end Plot
end BenchCharts
