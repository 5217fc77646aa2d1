import BenchCharts.Number.Style
import BenchCharts.Summary

namespace BenchCharts

inductive Axis where
  | linear
  | log
deriving DecidableEq, Repr

inductive ValueLabel where
  | seconds
  | bytes
deriving DecidableEq, Repr

def formatBytes (bytes : Float) : String :=
  if bytes < 1000.0 then Number.fixed 0 bytes ++ "B"
  else if bytes < 1000000.0 then Number.fixed 1 (bytes / 1000.0) ++ "KB"
  else Number.fixed 1 (bytes / 1000000.0) ++ "MB"

def ValueLabel.format : ValueLabel → Float → String
  | .seconds, value => Number.fixed 2 value
  | .bytes, value => formatBytes value

structure BarChart where
  name : String
  title : Option String
  yLabel : String
  axis : Axis
  valueLabel : ValueLabel
  errorBars : Bool
  headroom : Float
  bars : List Bar

namespace BarChart

def linearHeadroom : Float := 1.15
def logHeadroom : Float := 1.6

def of (name yLabel : String) (bars : List Bar) : BarChart :=
  ⟨name, none, yLabel, .linear, .seconds, true, linearHeadroom, bars⟩

def withTitle (c : BarChart) (title : String) : BarChart := { c with title := some title }
def logScale (c : BarChart) : BarChart := { c with axis := .log, headroom := logHeadroom }
def withValueLabel (c : BarChart) (valueLabel : ValueLabel) : BarChart := { c with valueLabel }
def withoutErrorBars (c : BarChart) : BarChart := { c with errorBars := false }
def withHeadroom (c : BarChart) (headroom : Float) : BarChart := { c with headroom }

def error (c : BarChart) (bar : Bar) : Float :=
  if c.errorBars && bar.stats.std.isFinite then bar.stats.std else 0.0

def extreme? (pick : Float → Float → Float) (values : List Float) : Option Float :=
  match values.filter fun v => v.isFinite && 0.0 < v with
  | [] => none
  | v :: rest => some (rest.foldl pick v)

def top (c : BarChart) : Float :=
  (extreme? Number.larger (c.bars.map fun bar => bar.stats.mean + c.error bar)).getD 1.0

def bottom (c : BarChart) : Float :=
  (extreme? Number.smaller (c.bars.map fun bar => bar.stats.mean)).getD c.top

-- A logarithmic axis starts at half the least bar, so that it shows.
def yRange (c : BarChart) : Float × Float :=
  match c.axis with
  | .linear => (0.0, c.top * c.headroom)
  | .log => (c.bottom / 2.0, c.top * c.headroom)

def colours (c : BarChart) : Except Fault (List Colour) := c.bars.mapM fun bar => Project.colourOf bar.label

end BarChart
end BenchCharts
