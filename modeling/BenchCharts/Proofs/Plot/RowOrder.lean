import BenchCharts.Proofs.Plot.Warmup

namespace BenchCharts

namespace Sheet

variable {s r : Sheet} {column name : String}

def groupOf? (s : Sheet) (column : String) (row : List String) : Option String :=
  if column ∈ s.header then some (Project.displayName (Cells.shown (s.column column) (s.cell column row))) else none

def carrying (s : Sheet) (column group : String) : List (List String) :=
  s.rows.filter (s.groupOf? column · == some group)

structure Shuffled (s r : Sheet) : Prop where
  header : s.header = r.header
  rows : s.rows.Perm r.rows

-- The same rows, and those of one group in the same order.
structure Reordered (column : String) (s r : Sheet) : Prop where
  header : s.header = r.header
  shuffled : s.rows.Perm r.rows
  ordered : ∀ group, s.carrying column group = r.carrying column group

theorem discard_column : discard (s.table.column name) =
    if name ∈ s.header then .ok () else .error (.missingColumn name) := by
  split
  · rename_i member
    exact discard_ok.mpr ⟨_, column_ok.mpr ⟨member, rfl⟩⟩
  · rename_i missing
    rw [discard_error]
    cases found : s.table.column name with
    | ok c => exact absurd (column_ok.mp found).1 missing
    | error fault =>
      unfold Table.column at found
      split at found
      · cases found
      · exact found.symm

theorem discard_numeric : discard (s.table.numeric name) = (discard (s.table.column name) >>= fun _ =>
    if Cells.allNumbers (s.column name) then .ok () else .error (.columnType name)) := by
  unfold Table.numeric
  cases found : s.table.column name with
  | error fault => rfl
  | ok c =>
    obtain ⟨title, cells⟩ := c
    obtain ⟨_, same⟩ := column_ok.mp found
    obtain ⟨rfl, inferred⟩ := Column.mk.inj same
    cases numbers : Cells.allNumbers (s.column title) with
    | false =>
      rw [inferred, Cells.infer_text numbers]
      rfl
    | true =>
      obtain ⟨values, read⟩ := Cells.allNumbers_iff.mp numbers
      rw [inferred, Cells.infer_numeric.mpr read]
      rfl

namespace Shuffled

variable (order : Shuffled s r)

include order

theorem column_perm (name : String) : (s.column name).Perm (r.column name) := by
  rw [Sheet.column, Sheet.column, cell_header order.header]
  exact order.rows.map _

-- All cells of a column decide its type, in whatever order they come.
theorem allNumbers (name : String) : Cells.allNumbers (s.column name) = Cells.allNumbers (r.column name) :=
  (order.column_perm name).all_eq

theorem shown (name : String) : Cells.shown (s.column name) = Cells.shown (r.column name) := by
  funext cell
  rw [Cells.shown, Cells.shown, order.allNumbers name]

theorem missing (name : String) : discard (s.table.column name) = discard (r.table.column name) := by
  rw [discard_column, discard_column, order.header]

theorem numeric (name : String) : discard (s.table.numeric name) = discard (r.table.numeric name) := by
  rw [discard_numeric, discard_numeric, order.missing name, order.allNumbers name]

theorem check (a : Aggregation) : a.check s.table = a.check r.table := by
  unfold Aggregation.check
  simp only [order.missing, order.numeric]

theorem counts (a : Aggregation) : s.counts a = r.counts a := by
  funext row
  unfold Sheet.counts
  rw [cell_header order.header]

theorem kept_perm (a : Aggregation) : (s.kept a).Perm (r.kept a) := by
  rw [Sheet.kept, Sheet.kept, order.counts a]
  exact order.rows.filter _

end Shuffled

theorem Reordered.moved (order : Reordered column s r) : s.Shuffled r := ⟨order.header, order.shuffled⟩

-- Whether a row counts and which group it is in are read off the row, so a group keeps its rows.
theorem Reordered.kept_group (order : Reordered column s r) (a : Aggregation) (group : String) :
    (s.kept a).filter (s.groupOf? column · == some group) = (r.kept a).filter (r.groupOf? column · == some group) := by
  have same := order.ordered group
  unfold carrying at same
  rw [Sheet.kept, Sheet.kept, List.filter_comm, same, List.filter_comm, order.moved.counts a]

end Sheet

namespace Aggregation

variable {a : Aggregation} {s r : Sheet} {g : Grouped} {one two : Summary}

theorem rows_labelled {ρ α : Type} {rows : List ρ} {xs : List α} {f : ρ → String} {h : ρ → Option α} (label : String)
    (valued : xs.map some = rows.map h) :
    (rowsOf (rows.map f) label).filterMap (xs[·]?) = (rows.filter (f · == label)).filterMap h := by
  have named : (rows.map f).map some = rows.map fun row => some (f row) := by simp
  have lengths : xs.length = (rows.map f).length := by simpa using congrArg List.length valued
  have picked := congrArg (List.filterMap id) (picked_rows label named valued)
  rw [rows_picked _ label xs lengths]
  simpa [List.filterMap_map, Function.comp_def] using picked

theorem statsOf_sheet (ran : a.group s.table = .ok g) (label : String) :
    statsOf g.columns (rowsOf (a.labelled s) label) = a.metrics.map fun metric => Stats.ofValues
      ((((s.kept a).filter (s.groupOf? a.groupBy · == some label)).filterMap fun row =>
        Cells.number? (s.cell metric row)).map a.scale.apply) := by
  obtain ⟨member, _, columns⟩ := group_sheet ran
  obtain ⟨_, checked, _⟩ := bind_ok.mp ran
  obtain ⟨_, numeric⟩ := check_ok.mp checked
  have named : (s.groupOf? a.groupBy · == some label) = fun row =>
      Project.displayName (Cells.shown (s.column a.groupBy) (s.cell a.groupBy row)) == label := by
    funext row
    simp [Sheet.groupOf?, member]
  rw [statsOf, columns, List.map_map, named]
  refine List.map_congr_left fun metric listed => ?_
  obtain ⟨_, original⟩ := numeric metric listed
  have valued : ((s.kept a).filterMap fun row => Cells.number? (s.cell metric row)).map some =
      (s.kept a).map fun row => Cells.number? (s.cell metric row) := by
    rw [List.map_filterMap_some_eq_filter_map_isSome, List.filter_eq_self]
    intro number inside
    obtain ⟨row, kept, rfl⟩ := List.mem_map.mp inside
    obtain ⟨x, here⟩ := Sheet.number_cell original (List.mem_filter.mp kept).1
    rw [here]
    rfl
  rw [← rows_labelled label valued, Function.comp_apply]
  generalize ((s.kept a).filterMap fun row => Cells.number? (s.cell metric row)) = values
  simp [labelled, List.map_filterMap]

theorem labelled_shuffled (order : s.Shuffled r) : (a.labelled s).Perm (a.labelled r) := by
  unfold labelled
  rw [order.shown, Sheet.cell_header order.header]
  exact (order.kept_perm a).map _

-- Groups whose rows keep their order have the same statistics, and sorting settles their places.
theorem collect_reordered (order : s.Reordered a.groupBy r) {h : Grouped} (ran : a.group s.table = .ok g)
    (reran : a.group r.table = .ok h) : collect g.columns g.rows = collect h.columns h.rows := by
  obtain ⟨_, rows, _⟩ := group_sheet ran
  obtain ⟨_, others, _⟩ := group_sheet reran
  have entered : g.rows = rowsByLabel (a.labelled s) := rows
  have reentered : h.rows = rowsByLabel (a.labelled r) := others
  have labels : (collect g.columns g.rows).map (·.1) = (collect h.columns h.rows).map (·.1) := by
    rw [entered, reentered]
    refine (collect_ascending (keys_rowsByLabel _).1).eq_of_mem_iff (collect_ascending (keys_rowsByLabel _).1) ?_
    intro label
    rw [(keys_collect _ _).mem_iff, (keys_collect _ _).mem_iff, (keys_rowsByLabel _).2, (keys_rowsByLabel _).2]
    exact (labelled_shuffled order.moved).mem_iff
  have stats : ∀ label, statsOf g.columns (rowsOf (a.labelled s) label) =
      statsOf h.columns (rowsOf (a.labelled r) label) := by
    intro label
    rw [statsOf_sheet ran, statsOf_sheet reran, order.kept_group a, Sheet.cell_header order.header]
  rw [entered, reentered] at labels ⊢
  rw [collect_labels g.columns, collect_labels h.columns, labels]
  exact List.map_congr_left fun label _ => by rw [stats]

theorem run_ok {t k : Table} {summary : Summary} (ran : a.run t = .ok (k, summary)) :
    a.kept t = .ok k ∧ ∃ g, a.group t = .ok g ∧ summary = ⟨a.metrics, collect g.columns g.rows⟩ := by
  obtain ⟨g, grouped, made⟩ := bind_ok.mp ran
  cases made
  refine ⟨?_, g, grouped, rfl⟩
  obtain ⟨_, _, rest⟩ := bind_ok.mp grouped
  obtain ⟨k, kept, rest⟩ := bind_ok.mp rest
  obtain ⟨_, _, rest⟩ := bind_ok.mp rest
  obtain ⟨_, _, rest⟩ := bind_ok.mp rest
  obtain ⟨_, _, rest⟩ := bind_ok.mp rest
  cases rest
  exact kept

theorem discard_run_shuffled (order : s.Shuffled r) : discard (a.run s.table) = discard (a.run r.table) := by
  have kept : discard (a.kept s.table) = discard (a.kept r.table) := by
    rw [discard_kept, discard_kept]
    cases a.warmup with
    | none => rfl
    | some warmup => exact order.numeric warmup.column
  rw [discard_run, discard_run, order.check a, kept]

theorem kept_rows_sheet {t : Table} (kept : a.kept s.table = .ok t) (ran : a.group s.table = .ok g) :
    t.rows = (s.kept a).length := by
  have lengths := congrArg List.length (kept_sheet ran fun row => some row)
  rw [kept_rows kept]
  simpa using lengths

-- The aggregation tells the same of both sheets, also where it fails.
theorem logged_reordered (order : s.Reordered a.groupBy r) : a.logged s.table = a.logged r.table := by
  have outcome := discard_run_shuffled (a := a) order.moved
  unfold logged
  cases ran : a.run s.table with
  | error fault =>
    rw [ran] at outcome
    rw [discard_error.mp outcome.symm]
  | ok first =>
    obtain ⟨k, one⟩ := first
    rw [ran] at outcome
    obtain ⟨⟨l, two⟩, reran⟩ := discard_ok.mp outcome.symm
    obtain ⟨kept, g, grouped, rfl⟩ := run_ok ran
    obtain ⟨rekept, h, regrouped, rfl⟩ := run_ok reran
    have rows : k.rows = l.rows := by
      rw [kept_rows_sheet kept grouped, kept_rows_sheet rekept regrouped, (order.moved.kept_perm a).length_eq]
    have whole : s.table.rows = r.table.rows := by
      rw [Sheet.table_rows, Sheet.table_rows, order.shuffled.length_eq]
    rw [reran, collect_reordered order grouped regrouped]
    simp only [report, rows, whole]

end Aggregation

namespace Plot

variable {s r : Sheet}

theorem charts_reordered (p : Plot) {source other : String} {bytes others : List UInt8} {t u : Table}
    (read : Table.ofBytes source bytes = .ok t) (reread : Table.ofBytes other others = .ok u) (held : s.HeldBy bytes)
    (reheld : r.HeldBy others) (order : s.Reordered nameColumn r) : p.charts t = p.charts u := by
  obtain ⟨_, first, rfl⟩ := Table.ofBytes_exact.mp read
  obtain ⟨_, second, rfl⟩ := Table.ofBytes_exact.mp reread
  cases held.unique first
  cases reheld.unique second
  rw [← p.aggregation_groupBy] at order
  unfold charts
  rw [Aggregation.logged_reordered order]

-- One project measured between the rows of another, and behind them.
def interleavedTimes : Sheet :=
  timesOf [["jvm", "3", "0.1"], ["gwt", "3", "7"], ["jvm", "4", "0.2"], ["jvm", "5", "0.3"]] (by decide) (by decide)

def separateTimes : Sheet :=
  timesOf [["jvm", "3", "0.1"], ["jvm", "4", "0.2"], ["jvm", "5", "0.3"], ["gwt", "3", "7"]] (by decide) (by decide)

theorem times_reordered : interleavedTimes.Reordered nameColumn separateTimes := by
  refine ⟨rfl, by decide, ?_⟩
  intro group
  have named : ∀ sheet ∈ [interleavedTimes, separateTimes], ∀ row ∈ sheet.rows,
      sheet.groupOf? nameColumn row = some (if row.head? = some "jvm" then "JVM" else "GWT") := by decide +kernel
  have rows : ∀ sheet ∈ [interleavedTimes, separateTimes], sheet.carrying nameColumn group =
      sheet.rows.filter fun row => (if row.head? = some "jvm" then "JVM" else "GWT") == group := by
    intro sheet member
    refine List.filter_congr fun row listed => ?_
    rw [named sheet member row listed]
    rfl
  rw [rows _ (by simp), rows _ (by simp)]
  by_cases first : group = "JVM"
  · subst first
    decide
  · by_cases second : group = "GWT"
    · subst second
      decide
    · have apart : ∀ row : List String, ((if row.head? = some "jvm" then "JVM" else "GWT") == group) = false := by
        intro row
        split <;> simpa using fun same => by simp_all
      simp [apart]

theorem charts_reordered_sample : ∃ (t u : Table) (charts : List BarChart),
    Table.ofBytes "build.csv" (Text.Utf8.encode
      "name,iteration,build_time_ms\njvm,3,0.1\ngwt,3,7\njvm,4,0.2\njvm,5,0.3\n") = .ok t ∧
      Table.ofBytes "other.csv" (Text.Utf8.encode
        "name,iteration,build_time_ms\njvm,3,0.1\njvm,4,0.2\njvm,5,0.3\ngwt,3,7\n") = .ok u ∧
      interleavedTimes.Reordered nameColumn separateTimes ∧ interleavedTimes.rows ≠ separateTimes.rows ∧
      ((Plot.buildTime 3).charts t).result = .ok charts ∧ ((Plot.buildTime 3).charts u).result = .ok charts ∧
      charts.map (·.name) = ["build"] := by
  have held : interleavedTimes.HeldBy (Text.Utf8.encode
      "name,iteration,build_time_ms\njvm,3,0.1\ngwt,3,7\njvm,4,0.2\njvm,5,0.3\n") := by
    unfold Sheet.HeldBy
    decide +kernel
  have reheld : separateTimes.HeldBy (Text.Utf8.encode
      "name,iteration,build_time_ms\njvm,3,0.1\njvm,4,0.2\njvm,5,0.3\ngwt,3,7\n") := by
    unfold Sheet.HeldBy
    decide +kernel
  have gave : ((Plot.buildTime 3).charts interleavedTimes.table).result.toOption.map (·.map (·.name)) =
      some ["build"] := by decide +kernel
  obtain ⟨charts, found, names⟩ := Option.map_eq_some_iff.mp gave
  have one := toOption_ok.mp found
  have read : Table.ofBytes "build.csv" _ = .ok _ := Table.ofBytes_exact.mpr ⟨_, held, rfl⟩
  have reread : Table.ofBytes "other.csv" _ = .ok _ := Table.ofBytes_exact.mpr ⟨_, reheld, rfl⟩
  have same := charts_reordered (.buildTime 3) read reread held reheld times_reordered
  exact ⟨_, _, charts, read, reread, times_reordered, by decide, one, same ▸ one, names⟩

end Plot
end BenchCharts
