import BenchCharts.Table.Basic
import BenchCharts.Text.Character
import BenchCharts.Text.Utf8

namespace BenchCharts.Table
open Csv Text

def decodeFields (index : Nat) : List (List UInt8) → Except (Nat × Nat) (List String)
  | [] => .ok []
  | field :: rest =>
    match Utf8.decode field with
    | .error readable => .error (index, readable)
    | .ok text => (decodeFields (index + 1) rest).map (trim text :: ·)

def header (record : Record) : Except Flaw (List String) :=
  match decodeFields 0 record.fields with
  | .error (field, readable) => .error (.encoding 0 record.start field readable)
  | .ok names => if names.all (·.isEmpty) then .error .missingHeader else .ok names

def isByteBlank (b : UInt8) : Bool := b == 32 || b == 9 || b == 10 || b == 12 || b == 13

-- The number of fields is checked before their text.
def row (width : Nat) (entry : Record × Nat) : Except Flaw (List String) :=
  let (record, number) := entry
  if record.fields.length ≠ width then .error (.width number record.start record.fields.length width)
  else
    match decodeFields 0 (record.fields.map (trimBoth isByteBlank)) with
    | .error (field, readable) => .error (.encoding number record.start field readable)
    | .ok cells => .ok cells

def ofRecords : List Record → Except Flaw Table
  | [] => .error .missingHeader
  | first :: rest => do
    let names ← header first
    let rows ← (rest.zipIdx 1).mapM (row names.length)
    return ofRows names rows

def ofBytes (source : String) (bytes : List UInt8) : Except Fault Table :=
  (ofRecords (records bytes)).mapError (.parse source)

end BenchCharts.Table
