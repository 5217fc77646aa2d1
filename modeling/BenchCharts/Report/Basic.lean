import BenchCharts.Config.Load
import BenchCharts.Plot.Draw
import BenchCharts.Report.Json

namespace BenchCharts.Report
open Files Text

structure Printed where
  text : String
  logged : Logged Failure Unit

def fileLines : List String → String
  | [] => ""
  | [path] => "  " ++ fileName path ++ " (latest)\n"
  | path :: rest => "  " ++ fileName path ++ "\n" ++ fileLines rest

def datasetLines (dataset : String × List String) : String := dataset.1 ++ ":\n" ++ fileLines dataset.2

def listing (t : Tree) (config : Config) : Printed :=
  match Dataset.all t config.settings.dataDir with
  | .error fault => ⟨"", .fail (.ofFault fault)⟩
  | .ok datasets => ⟨String.join (datasets.map datasetLines), pure ()⟩

-- Labels are padded to the most bytes any of them has, counting characters.
def labelWidth (bars : List Bar) : Nat := bars.foldl (fun width bar => max width bar.label.utf8ByteSize) 0

def barLine (chart : BarChart) (width : Nat) (bar : Bar) : String :=
  let std := if bar.stats.std.isNaN then "-" else chart.valueLabel.format bar.stats.std
  "  " ++ padRight width bar.label ++ "  " ++ padLeft 10 (chart.valueLabel.format bar.stats.mean) ++
    "  ±" ++ padRight 10 std ++ s!"  n={bar.stats.count}\n"

def chartText (chart : BarChart) : String :=
  chart.title.getD chart.name ++ " (" ++ chart.yLabel ++ ")\n" ++
    String.join (chart.bars.map (barLine chart (labelWidth chart.bars)))

def summaryText (path : String) (charts : List BarChart) : String :=
  "# " ++ path ++ "\n" ++ String.join (charts.map fun chart => chartText chart ++ "\n")

def summary (t : Tree) (dataDir : String) (plot : Plot) : Logged Failure (String × List BarChart) :=
  (plot.summarise dataDir t).mapError (·.within (.summarising plot.dataset))

def summaries (t : Tree) (dataDir : String) : List Plot → Printed
  | [] => ⟨"", pure ()⟩
  | plot :: rest =>
    match summary t dataDir plot with
    | ⟨events, .error failure⟩ => ⟨"", ⟨events, .error failure⟩⟩
    | ⟨events, .ok (path, charts)⟩ =>
      let later := summaries t dataDir rest
      ⟨summaryText path charts ++ later.text, ⟨events ++ later.logged.events, later.logged.result⟩⟩

def charts (t : Tree) (dataDir : String) : List Plot → Logged Failure (List BarChart)
  | [] => pure []
  | plot :: rest => do
    let (_, first) ← summary t dataDir plot
    return first ++ (← charts t dataDir rest)

def jsonText (charts : List BarChart) : String := (Json.array (charts.map BarChart.json)).pretty 0 ++ "\n"

-- As JSON all charts are printed at once, so a failure leaves nothing.
def jsonSummaries (t : Tree) (config : Config) : Printed :=
  let logged := charts t config.settings.dataDir config.plots
  match logged.result with
  | .error failure => ⟨"", ⟨logged.events, .error failure⟩⟩
  | .ok charts => ⟨jsonText charts, ⟨logged.events, .ok ()⟩⟩

def print (t : Tree) (config : Config) (json : Bool) : Printed :=
  if json then jsonSummaries t config else summaries t config.settings.dataDir config.plots

def plot (t : Tree) (config : Config) : Tree × Printed :=
  match Plot.drawAll config.plots config.settings.dataDir config.settings.plotDir t with
  | (t, ⟨events, .error failure⟩) => (t, ⟨"", ⟨events, .error failure⟩⟩)
  | (t, ⟨events, .ok written⟩) => (t, ⟨String.join (written.map (· ++ "\n")), ⟨events, .ok ()⟩⟩)

end BenchCharts.Report
