import BenchCharts.Csv.Record
import BenchCharts.Files.Path
import BenchCharts.Text.Quoted

namespace BenchCharts

namespace Csv

inductive Flaw where
  | missingHeader
  | width (record : Nat) (start : Position) (found expected : Nat)
  -- With the length of the readable beginning of the field.
  | encoding (record : Nat) (start : Position) (field readable : Nat)
  | unreadable (obstacle : Files.Obstacle)
deriving DecidableEq, Repr

def Flaw.message : Flaw → String
  | .missingHeader => "missing header"
  | .width record start found expected =>
    s!"CSV error: record {record} (line: {start.line}, byte: {start.byte}): " ++
      s!"found record with {found} fields, but the previous record has {expected} fields"
  | .encoding record start field readable =>
    s!"CSV parse error: record {record} (line {start.line}, field: {field}, byte: {start.byte}): " ++
      s!"invalid utf-8: invalid UTF-8 in field {field} near byte index {readable}"
  | .unreadable obstacle => obstacle.message

end Csv

open Text

inductive Fault where
  | notFound (dataset directory : String)
  | parse (source : String) (flaw : Csv.Flaw)
  | unknownProject (label : String)
  | missingColumn (name : String)
  | columnType (name : String)
  | io (path : String) (obstacle : Files.Obstacle)
deriving DecidableEq, Repr

namespace Fault

def message : Fault → String
  | .notFound dataset directory => s!"No matching data file: '{dataset}' in " ++ quoted directory
  | .parse source flaw => s!"Could not parse {source}: " ++ flaw.message
  | .unknownProject label => s!"No colour configured for project '{label}'"
  | .missingColumn name => s!"Missing column {name}"
  | .columnType name => s!"Column {name} is not numeric"
  | .io path _ => "Reading " ++ quoted path

def chain (fault : Fault) : List String :=
  match fault with
  | .io _ obstacle => [fault.message, obstacle.message]
  | _ => [fault.message]

end Fault

end BenchCharts
