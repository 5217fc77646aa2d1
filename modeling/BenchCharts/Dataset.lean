import BenchCharts.Fault
import BenchCharts.Files.Tree
import BenchCharts.Summary
import BenchCharts.Text.Character

namespace BenchCharts.Dataset
open Files Text

def stampFields : Nat := 6
def ending : List Char := ".csv".toList

def isStamp : Nat → List Char → Bool
  | 0, cs => cs == ending
  | n + 1, '-' :: cs =>
    !(cs.takeWhile isDecimalDigit).isEmpty && isStamp n (cs.dropWhile isDecimalDigit)
  | _ + 1, _ => false

def behind? : List Char → List Char → Option (List Char)
  | [], cs => some cs
  | n :: name, c :: cs => if n = c then behind? name cs else none
  | _ :: _, [] => none

def isOutput (name file : String) : Bool :=
  (behind? name.toList file.toList).any (isStamp stampFields)

-- The shortest name that leaves a stamp, as long as it stays on one line.
def nameBefore? : List Char → Option (List Char)
  | [] => none
  | c :: rest =>
    if c = '\n' then none
    else if isStamp stampFields rest then some [c]
    else (nameBefore? rest).map (c :: ·)

def nameOf? (file : String) : Option String := (nameBefore? file.toList).map .ofList

def fileNames (t : Tree) (directory : String) : Except Fault (List String) :=
  match t.list directory with
  | .error obstacle => .error (.io directory obstacle)
  | .ok names => .ok ((names.filterMap Utf8.text?).mergeSort fun a b => a ≤ b)

def files (t : Tree) (directory name : String) : Except Fault (List String) := do
  return (← fileNames t directory).filter (isOutput name)

def differInLength (files : List String) : Bool :=
  match files with
  | [] => false
  | first :: rest => rest.any fun file => file.utf8ByteSize != first.utf8ByteSize

def latestOf (directory name : String) (files : List String) : Except Fault String :=
  match files.getLast? with
  | some file => .ok (joinPath directory file)
  | none => .error (.notFound name directory)

def all (t : Tree) (directory : String) : Except Fault (List (String × List String)) := do
  let named := (← fileNames t directory).filterMap fun file => (nameOf? file).map (·, joinPath directory file)
  return (Groups.of named).mergeSort fun a b => a.1 ≤ b.1

end BenchCharts.Dataset
