import BenchCharts.Proofs.Aggregation.Grouping
import BenchCharts.Proofs.Table.Lookup
import Mathlib.Data.List.Sort

namespace BenchCharts

namespace Table

variable {t : Table} {name : String} {values : List Float} {texts : List String}

def text? (t : Table) (name : String) (row : Nat) : Option String :=
  (t.columns.find? (·.name == name)).bind fun c => c.cells.labels[row]?

def value? (t : Table) (name : String) (row : Nat) : Option Float :=
  (t.columns.find? (·.name == name)).bind fun c =>
    match c.cells with
    | .numeric values => values[row]?
    | .text _ => none

theorem text_labels (found : t.labels name = .ok texts) (row : Nat) : t.text? name row = texts[row]? := by
  obtain ⟨c, column, rfl⟩ := labels_ok.mp found
  simp [text?, column_ok.mp column]

theorem value_numeric (found : t.numeric name = .ok values) (row : Nat) : t.value? name row = values[row]? := by
  obtain ⟨c, column, cells⟩ := numeric_ok.mp found
  simp [value?, column_ok.mp column, cells]

end Table

namespace Aggregation

variable {a : Aggregation} {t k : Table} {s : Summary} {g : Grouped} {name : String}
  {labels texts : List String} {values : List Float}

def keeps (a : Aggregation) (t : Table) (row : Nat) : Bool :=
  match a.warmup with
  | none => true
  | some warmup => (t.value? warmup.column row).any fun i => warmup.firstKept ≤ i

def keptRows (a : Aggregation) (t : Table) : List Nat := (List.range t.rows).filter (a.keeps t)

def groupAt? (a : Aggregation) (t : Table) (row : Nat) : Option String :=
  (t.text? a.groupBy row).map Project.displayName

def rowsIn (a : Aggregation) (t : Table) (group : String) : List Nat :=
  (a.keptRows t).filter fun row => a.groupAt? t row == some group

theorem all_rows {α : Type} (xs : List α) : (List.range xs.length).map (xs[·]?) = xs.map some := by
  apply List.ext_getElem?
  intro i
  rcases Nat.lt_or_ge i xs.length with inside | outside
  · simp [inside]
  · simp [outside]

def restricted {α : Type} (a : Aggregation) (t : Table) (xs : List α) : List α :=
  match a.warmup with
  | none => xs
  | some _ => Cells.pick (t.mask (a.keeps t)) xs

theorem restricted_rows {α : Type} (xs : List α) (aligned : xs.length = t.rows) :
    (a.restricted t xs).map some = (a.keptRows t).map (xs[·]?) := by
  unfold restricted
  cases warmup : a.warmup with
  | none =>
    have every : a.keptRows t = List.range t.rows := by
      rw [keptRows, List.filter_eq_self]
      intro row _
      simp [keeps, warmup]
    rw [every, ← aligned, all_rows]
  | some w =>
    rw [keptRows, Table.mask, ← aligned]
    exact Cells.pick_rows _ xs

theorem kept_ok (ran : a.kept t = .ok k) :
    (a.warmup = none ∧ k = t) ∨ ∃ warmup, a.warmup = some warmup ∧ k = t.filter (a.keeps t) := by
  unfold kept at ran
  cases warmup : a.warmup with
  | none =>
    rw [warmup] at ran
    cases ran
    exact .inl ⟨rfl, rfl⟩
  | some w =>
    rw [warmup] at ran
    obtain ⟨iterations, found, same⟩ := bind_ok.mp ran
    cases same
    refine .inr ⟨w, rfl, ?_⟩
    congr 1
    funext row
    simp [keeps, warmup, Table.value_numeric found]

theorem kept_numeric (ran : a.kept t = .ok k) (found : t.numeric name = .ok values) :
    k.numeric name = .ok (a.restricted t values) := by
  unfold restricted
  rcases kept_ok ran with ⟨warmup, rfl⟩ | ⟨w, warmup, rfl⟩
  · rw [warmup]
    exact found
  · rw [warmup]
    exact Table.numeric_filter _ found

theorem kept_labels (ran : a.kept t = .ok k) (found : t.labels name = .ok texts) :
    k.labels name = .ok (a.restricted t texts) := by
  unfold restricted
  rcases kept_ok ran with ⟨warmup, rfl⟩ | ⟨w, warmup, rfl⟩
  · rw [warmup]
    exact found
  · rw [warmup]
    exact Table.labels_filter _ found

theorem check_ok {u : Unit} : a.check t = .ok u ↔
    (∃ c, t.column a.groupBy = .ok c) ∧ ∀ metric ∈ a.metrics, ∃ values, t.numeric metric = .ok values := by
  unfold check
  simp only [bind_ok, discard_ok, forM_ok]
  exact ⟨fun ⟨_, first, rest⟩ => ⟨first, rest⟩, fun ⟨first, rest⟩ => ⟨(), first, rest⟩⟩

theorem group_ok (ran : a.group t = .ok g) :
    (∃ labels, g.rows = rowsByLabel labels ∧ labels.map some = (a.keptRows t).map (a.groupAt? t)) ∧
    ∀ (i : Nat) (metric : String), a.metrics[i]? = some metric → ∃ values : List Float,
      g.columns[i]? = some (values.map a.scale.apply).toArray ∧
      values.map some = (a.keptRows t).map (t.value? metric) := by
  unfold group at ran
  obtain ⟨_, checked, ran⟩ := bind_ok.mp ran
  obtain ⟨k, kept, ran⟩ := bind_ok.mp ran
  obtain ⟨table, selected, ran⟩ := bind_ok.mp ran
  obtain ⟨texts, found, ran⟩ := bind_ok.mp ran
  obtain ⟨columns, mapped, ran⟩ := bind_ok.mp ran
  cases ran
  obtain ⟨⟨c, column⟩, numeric⟩ := check_ok.mp checked
  refine ⟨⟨_, rfl, ?_⟩, ?_⟩
  · have original : t.labels a.groupBy = .ok c.cells.labels := Table.labels_ok.mpr ⟨c, column, rfl⟩
    rw [Table.labels_select selected List.mem_cons_self, kept_labels kept original] at found
    cases found
    have named : a.groupAt? t = fun row => (c.cells.labels[row]?).map Project.displayName :=
      funext fun row => by rw [groupAt?, Table.text_labels original]
    have rows := congrArg (List.map (Option.map Project.displayName))
      (a.restricted_rows c.cells.labels (Table.length_texts original))
    rw [named]
    simpa [Function.comp_def] using rows
  · intro i metric here
    have member : metric ∈ a.metrics := List.mem_of_getElem? here
    obtain ⟨values, original⟩ := numeric metric member
    have column := Table.numeric_select selected (List.mem_cons_of_mem _ member)
    rw [kept_numeric kept original] at column
    refine ⟨a.restricted t values, ?_, ?_⟩
    · have place := congrArg (fun list => list[i]?) (mapM_ok.mp mapped)
      simp only [List.getElem?_map, here, column, Option.map_some] at place
      cases found : columns[i]? with
      | none => simp [found] at place
      | some given =>
        rw [found] at place
        cases place
        rfl
    · rw [a.restricted_rows values (Table.length_numeric original)]
      exact List.map_congr_left fun row _ => (Table.value_numeric original row).symm

theorem length_columns (ran : a.group t = .ok g) : g.columns.length = a.metrics.length := by
  obtain ⟨_, _, ran⟩ := bind_ok.mp ran
  obtain ⟨_, _, ran⟩ := bind_ok.mp ran
  obtain ⟨_, _, ran⟩ := bind_ok.mp ran
  obtain ⟨_, _, ran⟩ := bind_ok.mp ran
  obtain ⟨columns, mapped, ran⟩ := bind_ok.mp ran
  cases ran
  simpa using (congrArg List.length (mapM_ok.mp mapped)).symm

-- Only the checks and the iterations can stop an aggregation.
theorem summarise_total (checked : a.check t = .ok ()) (kept : a.kept t = .ok k) : ∃ s, a.summarise t = .ok s := by
  obtain ⟨⟨c, column⟩, numeric⟩ := check_ok.mp checked
  have named := kept_labels kept (Table.labels_ok.mpr ⟨c, column, rfl⟩)
  have present : ∀ name ∈ a.groupBy :: a.metrics, ∃ c, k.column name = .ok c := by
    intro name member
    rcases List.mem_cons.mp member with rfl | metric
    · obtain ⟨c, found, _⟩ := Table.labels_ok.mp named
      exact ⟨c, found⟩
    · obtain ⟨values, original⟩ := numeric name metric
      obtain ⟨c, found, _⟩ := Table.numeric_ok.mp (kept_numeric kept original)
      exact ⟨c, found⟩
  obtain ⟨table, selected⟩ := Table.select_total present
  have columns : ∃ columns, (a.metrics.mapM fun metric => do
      return ((← table.numeric metric).map a.scale.apply).toArray : Except Fault (List (Array Float))) = .ok columns := by
    refine mapM_total fun metric member => ?_
    obtain ⟨values, original⟩ := numeric metric member
    have found := Table.numeric_select selected (List.mem_cons_of_mem _ member)
    rw [kept_numeric kept original] at found
    exact ⟨_, bind_ok.mpr ⟨_, found, rfl⟩⟩
  obtain ⟨columns, mapped⟩ := columns
  rw [← Table.labels_select selected List.mem_cons_self] at named
  have grouped : a.group t = .ok ⟨k, rowsByLabel _, columns⟩ :=
    bind_ok.mpr ⟨(), checked, bind_ok.mpr ⟨k, kept, bind_ok.mpr ⟨table, selected,
      bind_ok.mpr ⟨_, named, bind_ok.mpr ⟨columns, mapped, rfl⟩⟩⟩⟩⟩
  exact ⟨_, bind_ok.mpr ⟨_, bind_ok.mpr ⟨_, grouped, rfl⟩, rfl⟩⟩

theorem discard_run : discard (a.run t) = (a.check t >>= fun _ => discard (a.kept t)) := by
  cases checked : a.check t with
  | error fault =>
    unfold run group
    rw [checked]
    rfl
  | ok u =>
    cases kept : a.kept t with
    | error fault =>
      unfold run group
      rw [checked, kept]
      rfl
    | ok k =>
      obtain ⟨s, ran⟩ := summarise_total checked kept
      obtain ⟨_, inner, _⟩ := bind_ok.mp ran
      rw [inner]
      rfl

theorem discard_kept : discard (a.kept t) =
    match a.warmup with
    | none => .ok ()
    | some warmup => discard (t.numeric warmup.column) := by
  unfold kept
  cases a.warmup with
  | none => rfl
  | some warmup =>
    dsimp only
    cases t.numeric warmup.column <;> rfl

theorem kept_rows (ran : a.kept t = .ok k) : k.rows = (a.keptRows t).length := by
  unfold keptRows
  rcases kept_ok ran with ⟨warmup, rfl⟩ | ⟨w, warmup, rfl⟩
  · have every : ∀ row ∈ List.range k.rows, a.keeps k row = true := fun row _ => by simp [keeps, warmup]
    rw [List.filter_eq_self.mpr every, List.length_range]
  · show (t.mask (a.keeps t)).count true = _
    rw [Table.mask, ← List.countP_eq_length_filter, List.count_eq_countP, List.countP_map]
    congr 1
    funext row
    simp

-- Picking by row numbers is picking by labels, here from a row number on.
theorem rows_from {α : Type} (labels : List String) (label : String) (whole xs : List α) (start : Nat)
    (same : xs.length = labels.length) (here : ∀ i, whole[start + i]? = xs[i]?) :
    (((labels.zipIdx start).filter (·.1 == label)).map (·.2)).filterMap (whole[·]?) =
      ((labels.zip xs).filter (·.1 == label)).map (·.2) := by
  induction labels generalizing xs start with
  | nil => simp
  | cons l labels ih =>
    cases xs with
    | nil => simp at same
    | cons x xs =>
      have first : whole[start]? = some x := by simpa using here 0
      have rest := ih xs (start + 1) (by simpa using same) fun i => by
        simpa [Nat.add_assoc, Nat.add_comm 1] using here (i + 1)
      simp only [List.zipIdx_cons, List.zip_cons_cons, List.filter_cons]
      cases hit : l == label <;> simp [first, rest]

theorem rows_picked {α : Type} (labels : List String) (label : String) (xs : List α)
    (same : xs.length = labels.length) :
    (rowsOf labels label).filterMap (xs[·]?) = ((labels.zip xs).filter (·.1 == label)).map (·.2) :=
  rows_from labels label xs xs 0 same fun i => by simp

-- Labels and values belong to the same rows, so those under a label belong to the rows under it.
theorem picked_rows {ρ α : Type} {rows : List ρ} {labels : List String} {xs : List α} {f : ρ → Option String}
    {h : ρ → Option α} (label : String) (named : labels.map some = rows.map f) (valued : xs.map some = rows.map h) :
    (((labels.zip xs).filter (·.1 == label)).map (·.2)).map some = (rows.filter (f · == some label)).map h := by
  induction rows generalizing labels xs with
  | nil =>
    cases labels with
    | nil => rfl
    | cons l labels => simp at named
  | cons row rows ih =>
    cases labels with
    | nil => simp at named
    | cons l labels =>
      cases xs with
      | nil => simp at valued
      | cons x xs =>
        simp only [List.map_cons, List.cons.injEq] at named valued
        have rest := ih named.2 valued.2
        simp only [List.zip_cons_cons, List.filter_cons, ← named.1]
        by_cases hit : l = label
        · simpa [hit, valued.1] using rest
        · simpa [hit] using rest

theorem summarise_ok (ran : a.summarise t = .ok s) :
    ∃ g, a.group t = .ok g ∧ s = ⟨a.metrics, collect g.columns g.rows⟩ := by
  obtain ⟨⟨k, summary⟩, inner, same⟩ := bind_ok.mp ran
  obtain ⟨g, grouped, made⟩ := bind_ok.mp inner
  cases same
  cases made
  exact ⟨g, grouped, rfl⟩

theorem labels_ascending (ran : a.summarise t = .ok s) : s.labels.Pairwise (· < ·) := by
  obtain ⟨g, grouped, rfl⟩ := summarise_ok ran
  obtain ⟨⟨labels, rows, _⟩, _⟩ := group_ok grouped
  rw [Summary.labels, rows]
  exact collect_ascending (keys_rowsByLabel labels).1

theorem mem_labels (ran : a.summarise t = .ok s) (group : String) :
    group ∈ s.labels ↔ ∃ row ∈ a.keptRows t, a.groupAt? t row = some group := by
  obtain ⟨g, grouped, rfl⟩ := summarise_ok ran
  obtain ⟨⟨labels, rows, named⟩, _⟩ := group_ok grouped
  rw [Summary.labels, rows, (keys_collect _ _).mem_iff, (keys_rowsByLabel labels).2]
  rw [← List.mem_map, ← named]
  simp

theorem row_grouped (ran : a.summarise t = .ok s) {row : Nat} (kept : row ∈ a.keptRows t) :
    ∃ group ∈ s.labels, a.groupAt? t row = some group := by
  obtain ⟨g, grouped, _⟩ := summarise_ok ran
  obtain ⟨⟨labels, _, named⟩, _⟩ := group_ok grouped
  have entered : a.groupAt? t row ∈ labels.map some := named ▸ List.mem_map_of_mem kept
  obtain ⟨group, _, same⟩ := List.mem_map.mp entered
  exact ⟨group, (mem_labels ran group).mpr ⟨row, kept, same.symm⟩, same.symm⟩

theorem stats_rows (grouped : a.group t = .ok g) {group metric : String} {rows : List Nat} {i : Nat}
    (member : (group, rows) ∈ g.rows) (place : a.metrics[i]? = some metric) :
    ∃ values : List Float, (a.rowsIn t group).map (t.value? metric) = values.map some ∧
      (statsOf g.columns rows)[i]? = some (.ofValues (values.map a.scale.apply)) := by
  obtain ⟨⟨labels, entered, named⟩, columns⟩ := group_ok grouped
  obtain ⟨values, column, valued⟩ := columns i metric place
  rw [entered, mem_rowsByLabel] at member
  obtain ⟨_, rfl⟩ := member
  have same : values.length = labels.length := by
    have lengths := congrArg List.length named
    have others := congrArg List.length valued
    simp only [List.length_map] at lengths others
    omega
  refine ⟨(rowsOf labels group).filterMap (values[·]?), ?_, ?_⟩
  · rw [rows_picked labels group values same]
    exact (picked_rows group named valued).symm
  · simp [statsOf, column, List.map_filterMap]

theorem get_group (ran : a.summarise t = .ok s) {group metric : String} (member : group ∈ s.labels)
    (configured : metric ∈ a.metrics) : ∃ g rows, ∃ i : Nat, a.group t = .ok g ∧ (group, rows) ∈ g.rows ∧
      a.metrics[i]? = some metric ∧ s.get? group metric = (statsOf g.columns rows)[i]? := by
  obtain ⟨g, grouped, rfl⟩ := summarise_ok ran
  obtain ⟨⟨labels, entered, _⟩, _⟩ := group_ok grouped
  have unique : ((collect g.columns g.rows).map (·.1)).Nodup := by
    rw [(keys_collect _ _).nodup_iff, entered]
    exact (keys_rowsByLabel labels).1
  obtain ⟨⟨_, stats⟩, found, rfl⟩ := List.mem_map.mp member
  obtain ⟨rows, here, rfl⟩ := mem_collect.mp found
  obtain ⟨i, index⟩ := Option.isSome_iff_exists.mp (List.isSome_idxOf?.mpr configured)
  obtain ⟨inside, place, _⟩ := List.idxOf?_eq_some_iff.mp index
  refine ⟨g, rows, i, grouped, here, List.getElem?_eq_some_iff.mpr ⟨inside, place⟩, ?_⟩
  simp [Summary.get?, index, find_entry unique found]

theorem get_summary (ran : a.summarise t = .ok s) {group metric : String} (member : group ∈ s.labels)
    (configured : metric ∈ a.metrics) :
    ∃ values : List Float, (a.rowsIn t group).map (t.value? metric) = values.map some ∧
      s.get? group metric = some (.ofValues (values.map a.scale.apply)) := by
  obtain ⟨g, rows, i, grouped, here, place, read⟩ := get_group ran member configured
  obtain ⟨values, listed, stats⟩ := stats_rows grouped here place
  exact ⟨values, listed, read.trans stats⟩

theorem get_isSome (ran : a.summarise t = .ok s) (group metric : String) :
    (s.get? group metric).isSome ↔ group ∈ s.labels ∧ metric ∈ a.metrics := by
  constructor
  · intro given
    obtain ⟨g, _, rfl⟩ := summarise_ok ran
    simp only [Summary.get?] at given
    cases index : a.metrics.idxOf? metric with
    | none => simp [index] at given
    | some i =>
      cases found : (collect g.columns g.rows).find? (·.1 == group) with
      | none => simp [index, found] at given
      | some entry =>
        have same : entry.1 = group := by simpa using List.find?_some found
        have configured : metric ∈ a.metrics := List.isSome_idxOf?.mp (by rw [index]; rfl)
        exact ⟨List.mem_map.mpr ⟨entry, List.mem_of_find?_eq_some found, same⟩, configured⟩
  · rintro ⟨member, configured⟩
    obtain ⟨values, _, given⟩ := get_summary ran member configured
    rw [given]
    rfl

-- Labels differ, so the order in which the groups come leaves no trace.
theorem groups_any_order (ran : a.summarise t = .ok s) (grouped : a.group t = .ok g)
    {order : List (String × List Nat)} (shuffled : order.Perm g.rows) : s.groups = collect g.columns order := by
  obtain ⟨g', grouped', rfl⟩ := summarise_ok ran
  rw [grouped] at grouped'
  cases grouped'
  obtain ⟨⟨labels, entered, _⟩, _⟩ := group_ok grouped
  have unique : (g.rows.map (·.1)).Nodup := by
    rw [entered]
    exact (keys_rowsByLabel labels).1
  exact (collect_perm unique shuffled).symm

theorem labels_beside {metrics : List String} {other : Summary} (ran : a.summarise t = .ok s)
    (beside : ({ a with metrics } : Aggregation).summarise t = .ok other) : other.labels = s.labels := by
  refine (labels_ascending beside).eq_of_mem_iff (labels_ascending ran) ?_
  intro group
  rw [mem_labels beside, mem_labels ran]
  rfl

theorem get_beside {metrics : List String} {other : Summary} (ran : a.summarise t = .ok s)
    (beside : ({ a with metrics } : Aggregation).summarise t = .ok other) {metric : String}
    (configured : metric ∈ a.metrics) (listed : metric ∈ metrics) (group : String) :
    other.get? group metric = s.get? group metric := by
  have labels := labels_beside ran beside
  by_cases member : group ∈ s.labels
  · obtain ⟨values, rows, given⟩ := get_summary ran member configured
    obtain ⟨values', rows', given'⟩ := get_summary beside (labels ▸ member) listed
    have equal : values'.map some = values.map some := rows'.symm.trans rows
    rw [given, given', (List.map_inj_right fun _ _ => Option.some.inj).mp equal]
  · have absent : ¬(s.get? group metric).isSome := fun given => member ((get_isSome ran _ _).mp given).1
    have absent' : ¬(other.get? group metric).isSome :=
      fun given => member (labels ▸ ((get_isSome beside _ _).mp given).1)
    rw [Option.not_isSome_iff_eq_none.mp absent, Option.not_isSome_iff_eq_none.mp absent']

-- Rows are neither lost nor moved between groups: a group is listed if and only if some row that
-- counts carries its name, each such row is in the group of its own name, and the statistics of a
-- group are those of its rows in their order. The order in which the groups came before they were
-- sorted does not show, and neither do the metrics beside the one asked for.
theorem summarise_row_by_row (ran : a.summarise t = .ok s) :
    s.labels.Pairwise (· < ·) ∧
    (∀ group, group ∈ s.labels ↔ ∃ row ∈ a.keptRows t, a.groupAt? t row = some group) ∧
    (∀ row ∈ a.keptRows t, ∃ group ∈ s.labels, a.groupAt? t row = some group) ∧
    (∀ group ∈ s.labels, ∀ metric ∈ a.metrics, ∃ values : List Float,
      (a.rowsIn t group).map (t.value? metric) = values.map some ∧
      s.get? group metric = some (.ofValues (values.map a.scale.apply))) ∧
    (∀ group metric, (s.get? group metric).isSome ↔ group ∈ s.labels ∧ metric ∈ a.metrics) ∧
    (∀ g order, a.group t = .ok g → order.Perm g.rows → s.groups = collect g.columns order) ∧
    ∀ metrics other, ({ a with metrics } : Aggregation).summarise t = .ok other →
      other.labels = s.labels ∧
      ∀ metric ∈ a.metrics, metric ∈ metrics → ∀ group, other.get? group metric = s.get? group metric := by
  refine ⟨labels_ascending ran, mem_labels ran, ?_, ?_, get_isSome ran, ?_, ?_⟩
  · intro row kept
    exact row_grouped ran kept
  · intro group member metric configured
    exact get_summary ran member configured
  · intro g order grouped shuffled
    exact groups_any_order ran grouped shuffled
  · intro metrics other beside
    refine ⟨labels_beside ran beside, ?_⟩
    intro metric configured listed group
    exact get_beside ran beside configured listed group

-- Names repeat among the columns and among the metrics, and the first row is warm-up.
def sampleTable : Table where
  columns := [⟨"name", .text ["jvm", "jvm", "kotlin", "jvm"]⟩, ⟨"iteration", .numeric [0.0, 3.0, 4.0, 5.0]⟩,
    ⟨"bytes", .numeric [9.0, 5.0, 7.0, 6.0]⟩, ⟨"bytes", .numeric [1.0, 1.0, 1.0, 1.0]⟩]
  rows := 4
  aligned := by simp [Cells.length]

def sampleAggregation : Aggregation := ((of "name" ["bytes", "bytes"]).skipWarmup "iteration" 3).scaled .millisToSecs

theorem summarise_row_by_row_sample : ∃ s, sampleAggregation.summarise sampleTable = .ok s ∧
    "JVM" ∈ s.labels ∧
    s.get? "JVM" "bytes" = some (.ofValues ([5.0, 6.0].map UnitScale.millisToSecs.apply)) := by
  have kept : sampleAggregation.kept sampleTable = .ok _ := bind_ok.mpr ⟨_, rfl, rfl⟩
  have checked : sampleAggregation.check sampleTable = .ok () := by
    refine check_ok.mpr ⟨⟨_, rfl⟩, ?_⟩
    intro metric member
    have same : metric = "bytes" := by simpa [sampleAggregation, scaled, skipWarmup, of] using member
    exact same ▸ ⟨_, rfl⟩
  obtain ⟨s, ran⟩ := summarise_total checked kept
  obtain ⟨_, listed, _, stats, _⟩ := summarise_row_by_row ran
  have member : "JVM" ∈ s.labels := (listed "JVM").mpr ⟨1, by decide +kernel, by decide +kernel⟩
  obtain ⟨values, rows, given⟩ := stats "JVM" member "bytes" (by decide)
  have picked : sampleAggregation.rowsIn sampleTable "JVM" = [1, 3] := by decide +kernel
  have read : [1, 3].map (sampleTable.value? "bytes") = [5.0, 6.0].map some := rfl
  rw [picked, read] at rows
  rw [← (List.map_inj_right fun _ _ => Option.some.inj).mp rows] at given
  exact ⟨s, ran, member, given⟩

end Aggregation
end BenchCharts
