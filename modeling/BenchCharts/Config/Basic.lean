import BenchCharts.Plot.Given
import BenchCharts.Yaml.Node

namespace BenchCharts

structure Config where
  settings : Settings
  plots : List Plot

namespace Config

def default : Config := ⟨{}, Plot.defaults⟩

def retainDataset (c : Config) (dataset : String) : Config :=
  { c with plots := c.plots.filter (·.dataset == dataset) }

end Config

namespace Given
open Number

def allDigits (cs : List Char) : Bool := !cs.isEmpty && cs.all Char.isDigit

def withoutSign : List Char → List Char
  | '+' :: rest | '-' :: rest => rest
  | cs => cs

-- Digits behind a zero are text, not a number.
def isPaddedZero (cs : List Char) : Bool :=
  match withoutSign cs with
  | '0' :: rest => allDigits rest
  | _ => false

def radixValue? (base : Nat) (cs : List Char) : Option Nat := do
  guard !cs.isEmpty
  cs.foldlM (fun n c => do
    let d ← Yaml.hexDigit? c
    guard (d < base)
    return base * n + d) 0

def wholeValue? (cs : List Char) : Option Nat :=
  match cs with
  | '0' :: 'x' :: rest => radixValue? 16 rest
  | '0' :: 'o' :: rest => radixValue? 8 rest
  | '0' :: 'b' :: rest => radixValue? 2 rest
  | _ => if isPaddedZero cs then none else radixValue? 10 cs

def whole? (cs : List Char) : Option Int :=
  match cs with
  | '-' :: rest => (wholeValue? rest).map fun n => -(n : Int)
  | '+' :: rest => (wholeValue? rest).map fun n => (n : Int)
  | _ => (wholeValue? cs).map fun n => (n : Int)

def real? (text : String) : Option Float :=
  let unsigned := if text.startsWith "+" then String.ofList (text.toList.drop 1) else text
  if [".inf", ".Inf", ".INF"].contains unsigned then some (ofSize false infinityBits)
  else if ["-.inf", "-.Inf", "-.INF"].contains text then some (ofSize true infinityBits)
  else if [".nan", ".NaN", ".NAN"].contains text then some undefined
  else if text.startsWith "+" && (unsigned.startsWith "+" || unsigned.startsWith "-") then none
  else (read? unsigned).filter Float.isFinite

-- Whole numbers past sixty-four bits are refused as long as a hundred and twenty-eight hold them,
-- and read as real numbers beyond.
def ofPlain? (text : String) : Option Given :=
  if ["", "null", "Null", "NULL", "~"].contains text then some .nothing
  else if ["true", "True", "TRUE"].contains text then some (.truth true)
  else if ["false", "False", "FALSE"].contains text then some (.truth false)
  else
    let other : Given :=
      if isPaddedZero text.toList then .text text else ((real? text).map Given.real).getD (.text text)
    match whole? text.toList with
    | none => some other
    | some n =>
      if 0 ≤ n && n < pow2 64 then some (.natural n.toNat)
      else if -pow2 63 ≤ n && n < 0 then some (.integer n)
      else if -pow2 127 ≤ n && n < pow2 128 then none
      else some other

def ofNode? : Yaml.Node → Option Given
  | .scalar content true => ofPlain? content
  | .scalar content false => some (.text content)
  | .sequence _ => some .sequence
  | .mapping _ => some .mapping

end Given

namespace Config
open Yaml

def entries? : Node → Option (List (Node × Node))
  | .mapping entries => some entries
  | .scalar "" true => some []
  | _ => none

def items? : Node → Option (List Node)
  | .sequence items => some items
  | .scalar "" true => some []
  | _ => none

def scalar? : Node → Option String
  | .scalar text _ => some text
  | _ => none

def named? (node : Node) : Option (List (String × Node)) := do
  (← entries? node).mapM fun (key, value) => do return (← scalar? key, value)

def single? (name : String) (entries : List (String × Node)) : Option (Option Node) :=
  match entries.filter (·.1 == name) with
  | [] => some none
  | [(_, value)] => some (some value)
  | _ => none

def path? (name fallback : String) (entries : List (String × Node)) : Option String := do
  match ← single? name entries with
  | some node => scalar? node
  | none => some fallback

def settings? (node : Node) : Option Settings := do
  let fallback : Settings := {}
  let entries ← named? node
  let dataDir ← path? "data_dir" fallback.dataDir entries
  let plotDir ← path? "plot_dir" fallback.plotDir entries
  return ⟨dataDir, plotDir⟩

def entryKey? (node : Node) : Option EntryKey := do
  match ← Given.ofNode? node with
  | .text name => some (.name name)
  | .natural n => some (.place n)
  | _ => none

def plot? (node : Node) : Option Plot := do
  let entries ← (← entries? node).mapM fun (key, value) => do return (← entryKey? key, ← Given.ofNode? value)
  (Plot.ofEntries entries).toOption

def ofNode? (node : Node) : Option Config := do
  let entries ← named? node
  let settings ← match ← single? "settings" entries with
    | some node => settings? node
    | none => some {}
  let plots ← (← items? (← (← single? "plots" entries))).mapM plot?
  return ⟨settings, plots⟩

def parse? (text : String) : Option Config := do ofNode? (← Node.parse? text)

end Config
end BenchCharts
