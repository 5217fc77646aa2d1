import BenchCharts.Proofs.Aggregation.RowByRow
import BenchCharts.Proofs.Table.Sheet

namespace BenchCharts

namespace Cells

variable {α : Type}

def atRows (rows : List Nat) : Cells → Cells
  | .numeric values => .numeric (rows.filterMap (values[·]?))
  | .text texts => .text (rows.filterMap (texts[·]?))

theorem filterMap_inside {xs : List α} {rows : List Nat} (inside : ∀ row ∈ rows, row < xs.length) :
    (rows.filterMap (xs[·]?)).map some = rows.map (xs[·]?) := by
  induction rows with
  | nil => rfl
  | cons row rows ih =>
    obtain ⟨first, others⟩ := List.forall_mem_cons.mp inside
    have rest := ih others
    simp [List.getElem?_eq_getElem first] at rest ⊢
    exact rest

theorem length_atRows {rows : List Nat} {cells : Cells} (inside : ∀ row ∈ rows, row < cells.length) :
    (cells.atRows rows).length = rows.length := by
  cases cells with
  | numeric values => simpa [atRows, length] using congrArg List.length (filterMap_inside inside)
  | text texts => simpa [atRows, length] using congrArg List.length (filterMap_inside inside)

theorem labels_atRows (rows : List Nat) (cells : Cells) :
    (cells.atRows rows).labels = rows.filterMap (cells.labels[·]?) := by
  cases cells with
  | numeric values => simp [atRows, labels, List.map_filterMap]
  | text texts => rfl

theorem filterMap_range (xs : List α) : (List.range xs.length).filterMap (xs[·]?) = xs := by
  apply (List.map_inj_right fun _ _ => Option.some.inj).mp
  rw [filterMap_inside fun row member => List.mem_range.mp member, Aggregation.all_rows]

theorem atRows_range (cells : Cells) : cells.atRows (List.range cells.length) = cells := by
  cases cells with
  | numeric values => exact congrArg Cells.numeric (filterMap_range values)
  | text texts => exact congrArg Cells.text (filterMap_range texts)

theorem pick_filterMap {xs : List α} {rows : List Nat} (mask : List Bool) (inside : ∀ row ∈ rows, row < xs.length) :
    pick mask (rows.filterMap (xs[·]?)) = (pick mask rows).filterMap (xs[·]?) := by
  induction mask generalizing rows with
  | nil => simp [pick]
  | cons keep mask ih =>
    cases rows with
    | nil => cases keep <;> rfl
    | cons row rows =>
      obtain ⟨first, others⟩ := List.forall_mem_cons.mp inside
      cases keep <;> simp [pick, List.getElem?_eq_getElem first, ih others]

-- Rows taken of rows that were taken.
theorem retain_atRows {rows : List Nat} {cells : Cells} (mask : List Bool) (inside : ∀ row ∈ rows, row < cells.length) :
    (cells.atRows rows).retain mask = cells.atRows (pick mask rows) := by
  cases cells with
  | numeric values => exact congrArg Cells.numeric (pick_filterMap mask inside)
  | text texts => exact congrArg Cells.text (pick_filterMap mask inside)

theorem pick_sublist (mask : List Bool) (xs : List α) : (pick mask xs).Sublist xs := by
  induction mask generalizing xs with
  | nil => simp [pick]
  | cons keep mask ih =>
    cases xs with
    | nil => cases keep <;> simp [pick]
    | cons x xs =>
      cases keep with
      | true => exact (ih xs).cons_cons x
      | false => exact (ih xs).cons x

end Cells

def Column.atRows (rows : List Nat) (c : Column) : Column := { c with cells := c.cells.atRows rows }

namespace Table

variable {t s original : Table} {rows : List Nat} {names : List String}

theorem column_filtered {keep : Nat → Bool} {name : String} {c : Column} (found : (t.filter keep).column name = .ok c) :
    ∃ old, t.column name = .ok old ∧ c = { old with cells := old.cells.retain (t.mask keep) } := by
  rw [column_ok, Table.filter, List.find?_map] at found
  obtain ⟨old, first, rfl⟩ := Option.map_eq_some_iff.mp found
  exact ⟨old, column_ok.mpr first, rfl⟩

-- A selected column is the one that is found under its own name.
theorem column_selected {c : Column} (ran : t.select names = .ok s) (member : c ∈ s.columns) :
    t.column c.name = .ok c := by
  obtain ⟨same, _⟩ := select_ok ran
  have listed : .ok c ∈ names.map t.column := same ▸ List.mem_map_of_mem member
  obtain ⟨name, _, found⟩ := List.mem_map.mp listed
  rw [column_name found, found]

-- A selection that fails leaves the table as it was.
inductive Step where
  | filter (keep : Nat → Bool)
  | select (names : List String)

def Step.apply (t : Table) : Step → Table
  | .filter keep => t.filter keep
  | .select names =>
    match t.select names with
    | .ok selected => selected
    | .error _ => t

def after (t : Table) (steps : List Step) : Table := steps.foldl Step.apply t

-- What a table has kept of another: the rows, in ascending order, of columns under their names.
structure Keeps (original : Table) (rows : List Nat) (t : Table) : Prop where
  ascending : rows.Pairwise (· < ·)
  inside : ∀ row ∈ rows, row < original.rows
  counted : t.rows = rows.length
  columns : ∀ c ∈ t.columns, ∃ d ∈ original.columns, c = d.atRows rows
  found : ∀ name c, t.column name = .ok c → ∃ d, original.column name = .ok d ∧ c = d.atRows rows

theorem inside_column (inside : ∀ row ∈ rows, row < original.rows) {d : Column} (member : d ∈ original.columns) :
    ∀ row ∈ rows, row < d.cells.length := by
  rw [original.aligned d member]
  exact inside

theorem keeps_self (t : Table) : Keeps t (List.range t.rows) t := by
  have whole : ∀ c ∈ t.columns, c = c.atRows (List.range t.rows) := by
    intro c member
    rw [Column.atRows, ← t.aligned c member, Cells.atRows_range]
  exact {
    ascending := List.pairwise_lt_range
    inside := fun row member => List.mem_range.mp member
    counted := List.length_range.symm
    columns := fun c member => ⟨c, member, whole c member⟩
    found := fun name c found => ⟨c, found, whole c (column_mem found)⟩ }

theorem Keeps.filter (keeps : Keeps original rows t) (keep : Nat → Bool) :
    Keeps original (Cells.pick (t.mask keep) rows) (t.filter keep) := by
  have fewer := Cells.pick_sublist (t.mask keep) rows
  have length : rows.length = (t.mask keep).length := by simp [mask, keeps.counted]
  have taken : ∀ d ∈ original.columns,
      ({ d.atRows rows with cells := (d.atRows rows).cells.retain (t.mask keep) } : Column) =
        d.atRows (Cells.pick (t.mask keep) rows) := by
    intro d member
    exact congrArg (Column.mk d.name) (Cells.retain_atRows (t.mask keep) (inside_column keeps.inside member))
  refine {
    ascending := keeps.ascending.sublist fewer
    inside := fun row member => keeps.inside row (fewer.subset member)
    counted := (Cells.length_pick (t.mask keep) rows length).symm
    columns := ?_
    found := ?_ }
  · intro c member
    obtain ⟨old, oldMember, rfl⟩ := List.mem_map.mp member
    obtain ⟨d, here, rfl⟩ := keeps.columns old oldMember
    exact ⟨d, here, taken d here⟩
  · intro name c found
    obtain ⟨old, first, rfl⟩ := column_filtered found
    obtain ⟨d, here, rfl⟩ := keeps.found name old first
    exact ⟨d, here, taken d (column_mem here)⟩

theorem Keeps.select (keeps : Keeps original rows t) (ran : t.select names = .ok s) : Keeps original rows s := by
  obtain ⟨_, counted⟩ := select_ok ran
  refine { keeps with counted := counted.trans keeps.counted, columns := ?_, found := ?_ }
  · intro c member
    exact keeps.columns c (column_mem (column_selected ran member))
  · intro name c found
    have same := column_selected ran (column_mem found)
    rw [column_name found] at same
    exact keeps.found name c same

theorem Keeps.step (keeps : Keeps original rows t) (step : Step) : ∃ rows, Keeps original rows (step.apply t) := by
  cases step with
  | filter keep => exact ⟨_, keeps.filter keep⟩
  | select names =>
    simp only [Step.apply]
    cases ran : t.select names with
    | ok selected => exact ⟨rows, keeps.select ran⟩
    | error fault => exact ⟨rows, keeps⟩

theorem Keeps.steps (keeps : Keeps original rows t) (steps : List Step) :
    ∃ rows, Keeps original rows (t.after steps) := by
  induction steps generalizing t rows with
  | nil => exact ⟨rows, keeps⟩
  | cons step steps ih =>
    obtain ⟨_, next⟩ := keeps.step step
    exact ih next

theorem Keeps.aligned (keeps : Keeps original rows t) : ∀ c ∈ t.columns, c.cells.length = t.rows := by
  intro c member
  obtain ⟨d, here, rfl⟩ := keeps.columns c member
  rw [Column.atRows, Cells.length_atRows (inside_column keeps.inside here), keeps.counted]

theorem Keeps.numeric {name : String} {values : List Float} (keeps : Keeps original rows t)
    (found : t.numeric name = .ok values) :
    ∃ all : List Float, original.numeric name = .ok all ∧ values.map some = rows.map (all[·]?) := by
  obtain ⟨c, column, cells⟩ := numeric_ok.mp found
  obtain ⟨d, first, rfl⟩ := keeps.found name c column
  have inside := inside_column keeps.inside (column_mem first)
  cases kind : d.cells with
  | numeric all =>
    rw [Column.atRows, kind] at cells
    cases cells
    rw [kind] at inside
    exact ⟨all, numeric_ok.mpr ⟨d, first, kind⟩, Cells.filterMap_inside inside⟩
  | text texts =>
    rw [Column.atRows, kind] at cells
    cases cells

theorem Keeps.labels {name : String} {texts : List String} (keeps : Keeps original rows t)
    (found : t.labels name = .ok texts) :
    ∃ all : List String, original.labels name = .ok all ∧ texts.map some = rows.map (all[·]?) := by
  obtain ⟨c, column, rfl⟩ := labels_ok.mp found
  obtain ⟨d, first, rfl⟩ := keeps.found name c column
  have inside := inside_column keeps.inside (column_mem first)
  rw [← Cells.length_labels] at inside
  refine ⟨d.cells.labels, labels_ok.mpr ⟨d, first, rfl⟩, ?_⟩
  rw [Column.atRows, Cells.labels_atRows, Cells.filterMap_inside inside]

end Table

namespace Aggregation

variable {a : Aggregation} {t : Table} {g : Grouped}

theorem rowsOf_lt {labels : List String} {label : String} {row : Nat} (member : row ∈ rowsOf labels label) :
    row < labels.length := by
  obtain ⟨⟨other, index⟩, listed, rfl⟩ := List.mem_map.mp member
  have place := List.mem_zipIdx (List.mem_filter.mp listed).1
  omega

-- Every number under which a row was entered is one of a row of every metric.
theorem group_inside (ran : a.group t = .ok g) :
    ∀ entry ∈ g.rows, ∀ row ∈ entry.2, ∀ values ∈ g.columns, row < values.size := by
  rintro ⟨label, rows⟩ entered row member values column
  obtain ⟨⟨labels, grouped, named⟩, columns⟩ := group_ok ran
  rw [grouped, mem_rowsByLabel] at entered
  obtain ⟨_, rfl⟩ := entered
  obtain ⟨i, inside, here⟩ := List.mem_iff_getElem.mp column
  rw [length_columns ran] at inside
  obtain ⟨given, place, valued⟩ := columns i a.metrics[i] (List.getElem?_eq_getElem inside)
  have size : values.size = given.length := by
    rw [← here, (List.getElem?_eq_some_iff.mp place).2]
    simp
  have lengths := congrArg List.length named
  have others := congrArg List.length valued
  simp only [List.length_map] at lengths others
  have low := rowsOf_lt member
  omega

end Aggregation

namespace Table

theorem after_aligned {source : String} {bytes : List UInt8} {loaded : Table} (read : ofBytes source bytes = .ok loaded)
    (steps : List Step) :
    (Csv.records bytes).length = loaded.rows + 1 ∧
    ∃ rows : List Nat, Keeps loaded rows (loaded.after steps) ∧
      (∀ c ∈ (loaded.after steps).columns, c.cells.length = (loaded.after steps).rows) ∧
      (∀ name values, (loaded.after steps).numeric name = .ok values →
        ∃ all : List Float, loaded.numeric name = .ok all ∧ values.map some = rows.map (all[·]?)) ∧
      (∀ name texts, (loaded.after steps).labels name = .ok texts →
        ∃ all : List String, loaded.labels name = .ok all ∧ texts.map some = rows.map (all[·]?)) ∧
      ∀ (a : Aggregation) g, a.group (loaded.after steps) = .ok g →
        ∀ entry ∈ g.rows, ∀ row ∈ entry.2, ∀ values ∈ g.columns, row < values.size := by
  obtain ⟨s, held, rfl⟩ := ofBytes_exact.mp read
  obtain ⟨rows, keeps⟩ := (keeps_self s.table).steps steps
  refine ⟨?_, rows, keeps, keeps.aligned, fun _ _ => keeps.numeric, fun _ _ => keeps.labels, ?_⟩
  · simpa using congrArg List.length held
  · exact fun a g => Aggregation.group_inside

-- Names repeat, one selection takes a column twice and another fails.
def sampleSteps : List Step :=
  [.filter (0 < ·), .select ["bytes", "name", "bytes"], .select ["iteration"], .filter (· ≠ 1)]

theorem after_aligned_sample : ∃ (loaded : Table) (rows : List Nat),
    ofBytes "size.csv" (Text.Utf8.encode "name,bytes,bytes\njvm,1,a\ngwt,2,b\nteavm,,c\njvm,4,d\n") = .ok loaded ∧
      (loaded.after sampleSteps).names = ["bytes", "name", "bytes"] ∧ (loaded.after sampleSteps).rows = 2 ∧
      Keeps loaded rows (loaded.after sampleSteps) ∧ rows.length = 2 := by
  have gave : ((ofBytes "size.csv" (Text.Utf8.encode "name,bytes,bytes\njvm,1,a\ngwt,2,b\nteavm,,c\njvm,4,d\n")).toOption.map
      fun t => ((t.after sampleSteps).names, (t.after sampleSteps).rows)) = some (["bytes", "name", "bytes"], 2) := by
    decide +kernel
  obtain ⟨loaded, found, counts⟩ := Option.map_eq_some_iff.mp gave
  obtain ⟨names, count⟩ := Prod.mk.inj counts
  have read := toOption_ok.mp found
  obtain ⟨_, rows, keeps, _⟩ := after_aligned read sampleSteps
  exact ⟨loaded, rows, read, names, count, keeps, keeps.counted ▸ count⟩

end Table
end BenchCharts
