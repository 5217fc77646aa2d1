import BenchCharts.Chart.Basic
import BenchCharts.Text.Quoted

namespace BenchCharts

inductive Json where
  | null
  | truth (value : Bool)
  | number (text : String)
  | text (value : String)
  | array (items : List Json)
  | object (fields : List (String × Json))

namespace Json

-- What is not finite has no number.
def real (x : Float) : Json := if x.isFinite then .number (Number.write .json x) else .null

def newline (depth : Nat) : String := "\n" ++ Text.spaces (2 * depth)

mutual

def pretty (depth : Nat) : Json → String
  | .null => "null"
  | .truth value => if value then "true" else "false"
  | .number digits => digits
  | .text value => Text.jsonString value
  | .array [] => "[]"
  | .array (item :: rest) =>
    "[" ++ newline (depth + 1) ++ pretty (depth + 1) item ++ items (depth + 1) rest ++ newline depth ++ "]"
  | .object [] => "\x7b\x7d"
  | .object ((name, value) :: rest) =>
    "\x7b" ++ newline (depth + 1) ++ Text.jsonString name ++ ": " ++ pretty (depth + 1) value ++
      fields (depth + 1) rest ++ newline depth ++ "\x7d"

def items (depth : Nat) : List Json → String
  | [] => ""
  | item :: rest => "," ++ newline depth ++ pretty depth item ++ items depth rest

def fields (depth : Nat) : List (String × Json) → String
  | [] => ""
  | (name, value) :: rest =>
    "," ++ newline depth ++ Text.jsonString name ++ ": " ++ pretty depth value ++ fields depth rest

end

end Json

def Axis.name : Axis → String
  | .linear => "Linear"
  | .log => "Log"

def ValueLabel.name : ValueLabel → String
  | .seconds => "Seconds"
  | .bytes => "Bytes"

def Stats.json (s : Stats) : Json :=
  .object [("mean", .real s.mean), ("std", .real s.std), ("count", .number s.count.repr)]

def Bar.json (b : Bar) : Json := .object [("label", .text b.label), ("stats", b.stats.json)]

def BarChart.json (c : BarChart) : Json :=
  .object [
    ("name", .text c.name),
    ("title", (c.title.map Json.text).getD .null),
    ("y_label", .text c.yLabel),
    ("axis", .text c.axis.name),
    ("value_label", .text c.valueLabel.name),
    ("error_bars", .truth c.errorBars),
    ("headroom", .real c.headroom),
    ("bars", .array (c.bars.map Bar.json))]

end BenchCharts
