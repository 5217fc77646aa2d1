import BenchCharts.Cli.Run

namespace BenchCharts.Program
open Files

def entryAt (path : String) : IO Entry := do
  try
    let data ← IO.FS.readBinFile path
    return .file (.bytes data.toList)
  catch _ => return .directory

def treeIn (directory : String) : Tree :=
  let here := Tree.empty.placeOf (Text.Utf8.encode directory)
  (Tree.empty.plant here .directory).enter here

-- A listing of directories is not at hand, so the paths to work on are given, one a line.
def plantAll (t : Tree) (paths : List String) : IO Tree :=
  paths.foldlM (fun t path => do
    return t.plant (t.placeOf (Text.Utf8.encode path)) (← entryAt path)) t

def writeEntry (path : String) : Entry → IO Unit
  | .directory => IO.FS.createDirAll path
  | .file content => IO.FS.writeBinFile path ⟨content.data.toArray⟩

def writeBack (t : Tree) : IO Unit :=
  for (place, entry) in t.entries do
    match entry, Tree.pathOf? place with
    | .file (.bytes _), _ => pure ()
    | entry, some path => writeEntry path entry
    | _, none => pure ()

def run (args : List String) : IO UInt32 := do
  let input ← (← IO.getStdin).readToEnd
  let paths := (input.splitOn "\n").filter (!·.isEmpty)
  let tree ← plantAll (treeIn ((← IO.getEnv "PWD").getD "/")) paths
  let outcome := Cli.run args (← IO.getEnv "RUST_LOG") tree
  writeBack outcome.tree
  for event in outcome.events do IO.eprintln event.line
  IO.print outcome.output
  if let some failure := outcome.failure then IO.eprintln ("Error: " ++ "\n".intercalate failure.chain)
  return outcome.exit.toUInt32

end BenchCharts.Program

def main (args : List String) : IO UInt32 := BenchCharts.Program.run args
