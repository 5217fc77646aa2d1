import BenchCharts.Dataset
import BenchCharts.Plot.Charts
import BenchCharts.Table.Load

namespace BenchCharts

namespace Dataset
open Files

def outputs (t : Tree) (directory name : String) : Logged Fault (List String) := do
  let found ← .of (files t directory name)
  if differInLength found then .note (.lengthsDiffer name found)
  return found

def outputPaths (t : Tree) (directory name : String) : Logged Fault (List String) := do
  return (← outputs t directory name).map (joinPath directory)

def latestOutput (t : Tree) (directory name : String) : Logged Fault String := do
  let path ← .of (latestOf directory name (← outputs t directory name))
  .note (.latest name path)
  return path

end Dataset

-- A directory can be opened and turns out unreadable only then.
def Table.load (t : Files.Tree) (path : String) : Logged Fault Table := do
  let table ← .of (match t.find path with
    | .error obstacle => .error (.io path obstacle)
    | .ok (_, .directory) => .error (.parse path (.unreadable .isDirectory))
    | .ok (_, .file content) => Table.ofBytes path content.data)
  .note (.loaded table.rows table.names path)
  return table

namespace Plot

def summarise (p : Plot) (dataDir : String) (t : Files.Tree) : Logged Failure (String × List BarChart) := do
  let path ← (Dataset.latestOutput t dataDir p.dataset).mapError .ofFault
  let table ← (Table.load t path).mapError .ofFault
  let charts ← (p.charts table).mapError (·.within (.building p.dataset path))
  return (path, charts)

end Plot
end BenchCharts
