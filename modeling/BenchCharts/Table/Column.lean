import BenchCharts.Number.Literal
import BenchCharts.Number.Style

namespace BenchCharts

inductive Cells where
  | numeric (values : List Float)
  | text (values : List String)

namespace Cells

def length : Cells → Nat
  | .numeric values => values.length
  | .text values => values.length

-- An empty cell is an undefined number.
def number? (cell : String) : Option Float := if cell.isEmpty then some Number.undefined else Number.read? cell

def infer (raw : List String) : Cells :=
  match raw.mapM number? with
  | some values => .numeric values
  | none => .text raw

def labels : Cells → List String
  | .numeric values => values.map (Number.write .plain)
  | .text values => values

def pick {α : Type} : List Bool → List α → List α
  | true :: mask, x :: xs => x :: pick mask xs
  | false :: mask, _ :: xs => pick mask xs
  | _, _ => []

def retain (mask : List Bool) : Cells → Cells
  | .numeric values => .numeric (pick mask values)
  | .text values => .text (pick mask values)

theorem length_pick {α : Type} (mask : List Bool) (xs : List α) (same : xs.length = mask.length) :
    (pick mask xs).length = mask.count true := by
  induction mask generalizing xs with
  | nil => simp [pick]
  | cons keep mask ih =>
    cases xs with
    | nil => simp at same
    | cons x xs =>
      have rest : xs.length = mask.length := by simpa using same
      cases keep <;> simp [pick, ih xs rest]

theorem length_retain (mask : List Bool) (cells : Cells) (same : cells.length = mask.length) :
    (cells.retain mask).length = mask.count true := by
  cases cells with
  | numeric values => exact length_pick mask values same
  | text values => exact length_pick mask values same

theorem length_of_mapM {α β : Type} {f : α → Option β} (xs : List α) {ys : List β} (h : xs.mapM f = some ys) :
    ys.length = xs.length := by
  induction xs generalizing ys with
  | nil => cases h; rfl
  | cons x xs ih =>
    simp only [List.mapM_cons, Option.bind_eq_bind, Option.bind_eq_some_iff] at h
    obtain ⟨y, _, rest, mapped, eq⟩ := h
    cases eq
    simp [ih mapped]

theorem length_infer (raw : List String) : (infer raw).length = raw.length := by
  unfold infer
  cases mapped : raw.mapM number? with
  | none => rfl
  | some values => exact length_of_mapM raw mapped

end Cells

structure Column where
  name : String
  cells : Cells

end BenchCharts
