import BenchCharts.Project
import BenchCharts.Stats
import BenchCharts.Table.Basic

namespace BenchCharts

namespace Groups

variable {α : Type}

def enter (name : String) (value : α) : List (String × List α) → List (String × List α)
  | [] => [(name, [value])]
  | (other, values) :: rest =>
    if other = name then (other, values ++ [value]) :: rest else (other, values) :: enter name value rest

def of (named : List (String × α)) : List (String × List α) :=
  named.foldl (fun groups (name, value) => enter name value groups) []

end Groups

structure Warmup where
  column : String
  firstKept : Float

structure Aggregation where
  groupBy : String
  metrics : List String
  warmup : Option Warmup
  scale : UnitScale

structure Bar where
  label : String
  stats : Stats

structure Summary where
  metrics : List String
  groups : List (String × List Stats)

namespace Summary

def isEmpty (s : Summary) : Bool := s.groups.isEmpty

def labels (s : Summary) : List String := s.groups.map (·.1)

-- A repeated metric name means the first.
def get? (s : Summary) (group metric : String) : Option Stats := do
  let i ← s.metrics.idxOf? metric
  let (_, stats) ← s.groups.find? (·.1 == group)
  stats[i]?

def ranked (s : Summary) (metric : String) : Except Fault (List Bar) :=
  match s.metrics.idxOf? metric with
  | none => .error (.missingColumn metric)
  | some i =>
    let bars := s.groups.map fun (label, stats) => (⟨label, stats.getD i (.ofValues [])⟩ : Bar)
    .ok (bars.mergeSort fun a b => b.stats.rank ≤ a.stats.rank)

end Summary

namespace Aggregation

def of (groupBy : String) (metrics : List String) : Aggregation := ⟨groupBy, metrics, none, .identity⟩

def skipWarmup (a : Aggregation) (column : String) (firstKept : UInt64) : Aggregation :=
  { a with warmup := some ⟨column, firstKept.toFloat⟩ }

def scaled (a : Aggregation) (scale : UnitScale) : Aggregation := { a with scale }

-- An undefined iteration is at no side, so its row goes.
def kept (a : Aggregation) (t : Table) : Except Fault Table :=
  match a.warmup with
  | none => .ok t
  | some warmup => do
    let iterations := (← t.numeric warmup.column).toArray
    return t.filter fun row => iterations[row]?.any fun i => warmup.firstKept ≤ i

def rowsByLabel (labels : List String) : List (String × List Nat) := Groups.of labels.zipIdx

def statsOf (columns : List (Array Float)) (rows : List Nat) : List Stats :=
  columns.map fun values => Stats.ofValues (rows.filterMap fun row => values[row]?)

def collect (columns : List (Array Float)) (groups : List (String × List Nat)) : List (String × List Stats) :=
  (groups.map fun (label, rows) => (label, statsOf columns rows)).mergeSort fun a b => a.1 ≤ b.1

def check (a : Aggregation) (t : Table) : Except Fault Unit := do
  discard (t.column a.groupBy)
  a.metrics.forM fun metric => discard (t.numeric metric)

structure Grouped where
  kept : Table
  rows : List (String × List Nat)
  columns : List (Array Float)

def group (a : Aggregation) (t : Table) : Except Fault Grouped := do
  a.check t
  let kept ← a.kept t
  let table ← kept.select (a.groupBy :: a.metrics)
  let labels := (← table.labels a.groupBy).map Project.displayName
  let columns ← a.metrics.mapM fun metric => return ((← table.numeric metric).map a.scale.apply).toArray
  return ⟨kept, rowsByLabel labels, columns⟩

def run (a : Aggregation) (t : Table) : Except Fault (Table × Summary) := do
  let grouped ← a.group t
  return (grouped.kept, ⟨a.metrics, collect grouped.columns grouped.rows⟩)

def summarise (a : Aggregation) (t : Table) : Except Fault Summary := return (← a.run t).2

end Aggregation
end BenchCharts
