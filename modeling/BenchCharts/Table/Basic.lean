import BenchCharts.Fault
import BenchCharts.Table.Column

namespace BenchCharts

structure Table where
  columns : List Column
  rows : Nat
  aligned : ∀ c ∈ columns, c.cells.length = rows

namespace Table

def names (t : Table) : List String := t.columns.map (·.name)

-- The first column of a name is the one that counts.
def column (t : Table) (name : String) : Except Fault Column :=
  match t.columns.find? (·.name == name) with
  | some column => .ok column
  | none => .error (.missingColumn name)

def numeric (t : Table) (name : String) : Except Fault (List Float) := do
  match (← t.column name).cells with
  | .numeric values => .ok values
  | .text _ => .error (.columnType name)

def labels (t : Table) (name : String) : Except Fault (List String) := do
  return (← t.column name).cells.labels

def mask (t : Table) (keep : Nat → Bool) : List Bool := (List.range t.rows).map keep

def filter (t : Table) (keep : Nat → Bool) : Table where
  columns := t.columns.map fun c => { c with cells := c.cells.retain (t.mask keep) }
  rows := (t.mask keep).count true
  aligned := by
    intro c member
    obtain ⟨old, oldMember, rfl⟩ := List.mem_map.mp member
    exact Cells.length_retain _ _ (by simpa [mask] using t.aligned old oldMember)

theorem column_mem {t : Table} {name : String} {c : Column} (found : t.column name = .ok c) : c ∈ t.columns := by
  unfold column at found
  split at found
  · rename_i d hd
    cases found
    exact List.mem_of_find?_eq_some hd
  · cases found

def selected (t : Table) : List String → Except Fault { cs : List Column // ∀ c ∈ cs, c ∈ t.columns }
  | [] => .ok ⟨[], by simp⟩
  | name :: rest =>
    match found : t.column name with
    | .error fault => .error fault
    | .ok c =>
      match selected t rest with
      | .error fault => .error fault
      | .ok ⟨cs, members⟩ => .ok ⟨c :: cs, by
          intro d member
          rcases List.mem_cons.mp member with rfl | later
          · exact column_mem found
          · exact members d later⟩

def select (t : Table) (names : List String) : Except Fault Table := do
  let ⟨columns, members⟩ ← t.selected names
  return ⟨columns, t.rows, fun c member => t.aligned c (members c member)⟩

def ofRows (names : List String) (rows : List (List String)) : Table where
  columns := names.zipIdx.map fun (name, j) => ⟨name, .infer (rows.map fun row => row.getD j "")⟩
  rows := rows.length
  aligned := by
    intro c member
    obtain ⟨⟨name, j⟩, _, rfl⟩ := List.mem_map.mp member
    simp [Cells.length_infer]

end Table
end BenchCharts
