import BenchCharts.Number.Literal
import BenchCharts.Plot.Basic
import BenchCharts.Text.Quoted

namespace BenchCharts
open Text

-- What a collection holds is of no account.
inductive Given where
  | nothing
  | truth (value : Bool)
  | natural (value : Nat)
  | integer (value : Int)
  | real (value : Float)
  | text (value : String)
  | sequence
  | mapping

def Given.described : Given → String
  | .nothing => "null"
  | .truth value => s!"boolean `{value}`"
  | .natural value => s!"integer `{value}`"
  | .integer value => s!"integer `{value}`"
  | .real value => "floating point `" ++ Number.write { Number.Style.plain with whole := ".0" } value ++ "`"
  | .text value => "string " ++ quoted value
  | .sequence => "sequence"
  | .mapping => "map"

inductive EntryKey where
  | name (text : String)
  | place (number : Nat)
deriving DecidableEq, Repr

inductive Wanted where
  | kind
  | count
  | factor
deriving DecidableEq, Repr

def Wanted.described : Wanted → String
  | .kind => "dyn Plot"
  | .count => "usize"
  | .factor => "f64"

inductive Refusal where
  | missingType
  | unknownType (name : String)
  | repeated (field : String)
  | wrongKind (got : Given) (wanted : Wanted)
  | outOfRange (got : Given) (wanted : Wanted)

def Refusal.message : Refusal → String
  | .missingType => "missing field `type`"
  | .unknownType name => s!"unknown variant `{name}`, expected one of `BinarySize`, `BuildTime`, `Runtime`"
  | .repeated field => s!"duplicate field `{field}`"
  | .wrongKind got wanted => "invalid type: " ++ got.described ++ ", expected " ++ wanted.described
  | .outOfRange got wanted => "invalid value: " ++ got.described ++ ", expected " ++ wanted.described

namespace Plot

def single? (field : String) (keys : List EntryKey) (entries : List (EntryKey × Given)) :
    Except Refusal (Option Given) :=
  match entries.filter fun (key, _) => keys.contains key with
  | [] => .ok none
  | [(_, value)] => .ok (some value)
  | _ => .error (.repeated field)

def parameter? (field : String) (entries : List (EntryKey × Given)) : Except Refusal (Option Given) :=
  single? field [.name field, .place 0] entries

def count (given : Given) : Except Refusal UInt64 :=
  match given with
  | .natural n => .ok n.toUInt64
  | .integer n => if n < 0 then .error (.outOfRange given .count) else .ok n.toNat.toUInt64
  | _ => .error (.wrongKind given .count)

def factor (given : Given) : Except Refusal Float :=
  match given with
  | .natural n => .ok (Number.ofSize false (Number.nearestBits n 1))
  | .integer n => .ok (Number.ofSize (n < 0) (Number.nearestBits n.natAbs 1))
  | .real x => .ok x
  | _ => .error (.wrongKind given .factor)

def warmupOf (entries : List (EntryKey × Given)) : Except Refusal UInt64 := do
  match ← parameter? "warmup_iterations" entries with
  | some given => count given
  | none => .ok defaultWarmup

def headroomOf (entries : List (EntryKey × Given)) : Except Refusal Float := do
  match ← parameter? "headroom" entries with
  | some given => factor given
  | none => .ok defaultHeadroom

-- The kind is settled before its parameter is looked at.
def ofEntries (entries : List (EntryKey × Given)) : Except Refusal Plot := do
  match ← single? "type" [.name "type"] entries with
  | none => .error .missingType
  | some (.text "BuildTime") => return .buildTime (← warmupOf entries)
  | some (.text "Runtime") => return .runtime (← warmupOf entries)
  | some (.text "BinarySize") => return .binarySize (← headroomOf entries)
  | some (.text other) => .error (.unknownType other)
  | some got => .error (.wrongKind got .kind)

end Plot
end BenchCharts
