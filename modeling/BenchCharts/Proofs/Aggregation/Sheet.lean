import BenchCharts.Proofs.Aggregation.RowByRow
import BenchCharts.Proofs.Table.Sheet

namespace BenchCharts

namespace Cells

variable {raw : List String} {cell : String} {values : List Float}

-- A number as it is written out; any other text stays.
def rewritten (cell : String) : String := ((number? cell).map (Number.write .plain)).getD cell

def allNumbers (raw : List String) : Bool := raw.all fun cell => (number? cell).isSome

-- A cell as it labels its row, in a column of these cells.
def shown (raw : List String) (cell : String) : String := if allNumbers raw then rewritten cell else cell

theorem rewritten_number {x : Float} (number : number? cell = some x) : rewritten cell = Number.write .plain x := by
  simp [rewritten, number]

theorem infer_numeric : infer raw = .numeric values ↔ raw.map number? = values.map some := by
  rw [← mapM_some, infer]
  cases raw.mapM number? <;> simp

theorem allNumbers_iff : allNumbers raw = true ↔ ∃ values : List Float, raw.map number? = values.map some := by
  induction raw with
  | nil => exact ⟨fun _ => ⟨[], rfl⟩, fun _ => rfl⟩
  | cons cell raw ih =>
    have split : allNumbers (cell :: raw) = ((number? cell).isSome && allNumbers raw) := rfl
    rw [split, Bool.and_eq_true, ih]
    constructor
    · rintro ⟨first, values, rest⟩
      obtain ⟨x, number⟩ := Option.isSome_iff_exists.mp first
      exact ⟨x :: values, by rw [List.map_cons, List.map_cons, number, rest]⟩
    · rintro ⟨values, same⟩
      cases values with
      | nil => simp at same
      | cons x values =>
        obtain ⟨number, rest⟩ := List.cons.inj same
        exact ⟨number ▸ rfl, values, rest⟩

theorem infer_text (mixed : allNumbers raw = false) : infer raw = .text raw := by
  unfold infer
  cases found : raw.mapM number? with
  | none => rfl
  | some values =>
    have numbers : allNumbers raw = true := allNumbers_iff.mpr ⟨values, mapM_some.mp found⟩
    rw [numbers] at mixed
    cases mixed

theorem labels_infer (raw : List String) : (infer raw).labels = raw.map (shown raw) := by
  cases numbers : allNumbers raw with
  | false =>
    have same : shown raw = id := funext fun cell => by simp [shown, numbers]
    rw [infer_text numbers, labels, same, List.map_id]
  | true =>
    obtain ⟨values, same⟩ := allNumbers_iff.mp numbers
    have written : ∀ cell ∈ raw, some (shown raw cell) = (number? cell).map (Number.write .plain) := by
      intro cell member
      obtain ⟨x, number⟩ := Option.isSome_iff_exists.mp (List.all_eq_true.mp numbers cell member)
      rw [shown, if_pos numbers, rewritten_number number, number, Option.map_some]
    rw [infer_numeric.mpr same, labels]
    apply (List.map_inj_right fun _ _ => Option.some.inj).mp
    calc (values.map (Number.write .plain)).map some
      _ = (values.map some).map (Option.map (Number.write .plain)) := by simp
      _ = raw.map fun cell => (number? cell).map (Number.write .plain) := by rw [← same, List.map_map]; rfl
      _ = raw.map fun cell => some (shown raw cell) := List.map_congr_left fun cell member => (written cell member).symm
      _ = (raw.map (shown raw)).map some := by rw [List.map_map]; rfl

theorem pick_filter {α : Type} (keep : α → Bool) (xs : List α) : pick (xs.map keep) xs = xs.filter keep := by
  induction xs with
  | nil => rfl
  | cons x xs ih => cases kept : keep x <;> simp [pick, kept, ih]

end Cells

namespace Sheet

variable {s : Sheet} {name : String} {c : Column} {values : List Float} {texts : List String}

def cell (s : Sheet) (name : String) (row : List String) : String := row.getD (s.header.idxOf name) ""

def column (s : Sheet) (name : String) : List String := s.rows.map (s.cell name)

theorem find_zipIdx (names : List String) (name : String) (start : Nat) :
    (names.zipIdx start).find? (·.1 == name) = if name ∈ names then some (name, start + names.idxOf name) else none := by
  induction names generalizing start with
  | nil => rfl
  | cons other names ih =>
    rw [List.zipIdx_cons, List.find?_cons, List.idxOf_cons, ih]
    by_cases same : other = name
    · simp [same]
    · have miss : (other == name) = false := by simpa using same
      have differ : ¬name = other := fun equal => same equal.symm
      simp [miss, differ, Nat.add_assoc, Nat.add_comm 1]

theorem column_ok : s.table.column name = .ok c ↔ name ∈ s.header ∧ c = ⟨name, .infer (s.column name)⟩ := by
  have found := find_zipIdx s.header name 0
  rw [Table.column_ok, table, Table.ofRows, List.find?_map]
  simp only [Function.comp_def, found]
  by_cases member : name ∈ s.header
  · rw [if_pos member, Nat.zero_add, Option.map_some, Option.some.injEq, eq_comm]
    exact (and_iff_right member).symm
  · simp [member]

theorem labels_ok : s.table.labels name = .ok texts ↔
    name ∈ s.header ∧ texts = (s.column name).map (Cells.shown (s.column name)) := by
  simp only [Table.labels_ok, column_ok]
  constructor
  · rintro ⟨c, ⟨member, rfl⟩, rfl⟩
    exact ⟨member, Cells.labels_infer _⟩
  · rintro ⟨member, rfl⟩
    exact ⟨_, ⟨member, rfl⟩, Cells.labels_infer _⟩

theorem numeric_ok : s.table.numeric name = .ok values ↔
    name ∈ s.header ∧ (s.column name).map Cells.number? = values.map some := by
  simp only [Table.numeric_ok, column_ok]
  constructor
  · rintro ⟨c, ⟨member, rfl⟩, numbers⟩
    exact ⟨member, Cells.infer_numeric.mp numbers⟩
  · rintro ⟨member, numbers⟩
    exact ⟨_, ⟨member, rfl⟩, Cells.infer_numeric.mpr numbers⟩

def counts (s : Sheet) (a : Aggregation) (row : List String) : Bool :=
  match a.warmup with
  | none => true
  | some warmup => (Cells.number? (s.cell warmup.column row)).any fun i => warmup.firstKept ≤ i

def kept (s : Sheet) (a : Aggregation) : List (List String) := s.rows.filter (s.counts a)

theorem text_row (member : name ∈ s.header) (row : Nat) : s.table.text? name row =
    (s.rows[row]?).map fun cells => Cells.shown (s.column name) (s.cell name cells) := by
  rw [Table.text_labels (labels_ok.mpr ⟨member, rfl⟩)]
  simp [column, Function.comp_def]

theorem value_row (numeric : s.table.numeric name = .ok values) (row : Nat) :
    s.table.value? name row = (s.rows[row]?).bind fun cells => Cells.number? (s.cell name cells) := by
  have numbers := congrArg (fun list => (list[row]?).bind id) (numeric_ok.mp numeric).2
  rw [Table.value_numeric numeric]
  simpa [column, Option.bind_map, Function.comp_def] using numbers.symm

end Sheet

namespace Aggregation

variable {s : Sheet} {a : Aggregation} {g : Grouped}

-- Only a table whose iterations are numbers is grouped.
theorem group_warmup {t : Table} {warmup : Warmup} (ran : a.group t = .ok g) (skips : a.warmup = some warmup) :
    ∃ values, t.numeric warmup.column = .ok values := by
  obtain ⟨_, _, ran⟩ := bind_ok.mp ran
  obtain ⟨k, kept, _⟩ := bind_ok.mp ran
  rw [Aggregation.kept, skips] at kept
  obtain ⟨values, numeric, _⟩ := bind_ok.mp kept
  exact ⟨values, numeric⟩

theorem keeps_row (ran : a.group s.table = .ok g) (row : Nat) (inside : row < s.rows.length) :
    a.keeps s.table row = s.counts a s.rows[row] := by
  unfold keeps Sheet.counts
  cases skips : a.warmup with
  | none => rfl
  | some warmup =>
    obtain ⟨values, numeric⟩ := group_warmup ran skips
    simp [Sheet.value_row numeric, inside]

theorem kept_sheet {β : Type} (ran : a.group s.table = .ok g) (f : List String → Option β) :
    (a.keptRows s.table).map (fun row => (s.rows[row]?).bind f) = (s.kept a).map f := by
  have mask : (List.range s.rows.length).map (a.keeps s.table) = s.rows.map (s.counts a) := by
    apply List.ext_getElem
    · simp
    · intro row inside _
      simpa using keeps_row ran row (by simpa using inside)
  have picked := Cells.pick_rows (a.keeps s.table) s.rows
  rw [mask, Cells.pick_filter] at picked
  rw [keptRows, Sheet.table_rows, Sheet.kept]
  simpa [Function.comp_def] using congrArg (List.map (·.bind f)) picked.symm

theorem group_sheet (ran : a.group s.table = .ok g) :
    a.groupBy ∈ s.header ∧
    g.rows = rowsByLabel ((s.kept a).map fun row =>
      Project.displayName (Cells.shown (s.column a.groupBy) (s.cell a.groupBy row))) ∧
    g.columns = a.metrics.map fun metric =>
      (((s.kept a).filterMap fun row => Cells.number? (s.cell metric row)).map a.scale.apply).toArray := by
  obtain ⟨⟨labels, rows, named⟩, columns⟩ := group_ok ran
  obtain ⟨_, checked, _⟩ := bind_ok.mp ran
  obtain ⟨⟨c, column⟩, numeric⟩ := check_ok.mp checked
  obtain ⟨member, _⟩ := Sheet.column_ok.mp column
  refine ⟨member, ?_, ?_⟩
  · have shown : ∀ row, a.groupAt? s.table row = (s.rows[row]?).bind fun row =>
        some (Project.displayName (Cells.shown (s.column a.groupBy) (s.cell a.groupBy row))) := by
      intro row
      rw [groupAt?, Sheet.text_row member, Option.map_map]
      cases s.rows[row]? <;> rfl
    rw [rows]
    congr 1
    apply (List.map_inj_right fun _ _ => Option.some.inj).mp
    rw [named, funext shown, kept_sheet ran, List.map_map]
    rfl
  · have same : ∀ metric ∈ a.metrics, ∀ values : List Float,
        values.map some = (a.keptRows s.table).map (s.table.value? metric) →
          values = (s.kept a).filterMap fun row => Cells.number? (s.cell metric row) := by
      intro metric listed values valued
      obtain ⟨_, original⟩ := numeric metric listed
      rw [funext (Sheet.value_row original), kept_sheet ran] at valued
      simpa [List.filterMap_map, Function.comp_def] using congrArg (List.filterMap id) valued
    apply List.ext_getElem?
    intro i
    rw [List.getElem?_map]
    cases here : a.metrics[i]? with
    | none =>
      rw [Option.map_none, List.getElem?_eq_none_iff, length_columns ran]
      exact List.getElem?_eq_none_iff.mp here
    | some metric =>
      obtain ⟨given, place, valued⟩ := columns i metric here
      rw [place, same metric (List.mem_of_getElem? here) given valued]
      rfl

end Aggregation
end BenchCharts
