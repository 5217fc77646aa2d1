import BenchCharts.Number.Exact

namespace BenchCharts

structure Stats where
  mean : Float
  std : Float
  count : Nat

namespace Stats
open Number

-- From -0, the only start that leaves every single value as it is.
def sum (values : List Float) : Float := values.foldl (· + ·) (-0.0)

def size (n : Nat) : Float := n.toUInt64.toFloat

def ofValues (values : List Float) : Stats :=
  let values := values.filter fun v => !v.isNaN
  let count := values.length
  if count = 0 then ⟨undefined, undefined, count⟩
  else
    let mean := sum values / size count
    let std :=
      if count < 2 then undefined
      else (sum (values.map fun v => (v - mean) * (v - mean)) / size (count - 1)).sqrt
    ⟨mean, std, count⟩

-- Means of no values come behind all numbers, and means of values that cancel out behind those.
def rank (s : Stats) : Nat :=
  if s.mean.isNaN then (if s.count = 0 then 1 else 0) else Number.orderKey s.mean + 2

end Stats

structure UnitScale where
  divisor : Float

namespace UnitScale

def identity : UnitScale := ⟨1.0⟩
def millisToSecs : UnitScale := ⟨1000.0⟩

def apply (scale : UnitScale) (value : Float) : Float := value / scale.divisor
def revert (scale : UnitScale) (value : Float) : Float := value * scale.divisor

end UnitScale
end BenchCharts
