import BenchCharts.Chart.Layout
import BenchCharts.Plot.Summarise

namespace BenchCharts
open Files

def Work (α : Type) := Tree → Tree × Logged Failure α

namespace Work

variable {α β : Type}

def andThen (x : Work α) (f : α → Work β) : Work β := fun t =>
  match x t with
  | (t, ⟨events, .error failure⟩) => (t, ⟨events, .error failure⟩)
  | (t, ⟨events, .ok a⟩) =>
    let (t, rest) := f a t
    (t, ⟨events ++ rest.events, rest.result⟩)

instance : Monad Work where
  pure a := fun t => (t, pure a)
  bind := andThen

def note (event : Event) : Work Unit := fun t => (t, .note event)

def look (f : Tree → Logged Failure α) : Work α := fun t => (t, f t)

def advance (reason : Obstacle → Reason) (f : Tree → Except Tree.Halt Tree) : Work Unit := fun t =>
  match f t with
  | .ok next => (next, pure ())
  | .error halt => (halt.left, .fail (.of (reason halt.obstacle)))

def change (reason : Obstacle → Reason) (f : Tree → Except Obstacle Tree) : Work Unit :=
  advance reason fun t => (f t).mapError (⟨t, ·⟩)

def within (context : Context) (x : Work α) : Work α := fun t =>
  let (t, logged) := x t
  (t, logged.mapError (·.within context))

end Work

-- Every label needs a colour before anything is written.
def BarChart.renderBy (ln : Float → Float) (chart : BarChart) (path : String) : Work Unit := do
  let colours ← Work.look fun _ => .of (chart.colours.mapError .ofFault)
  if chart.bars.isEmpty then Work.note (.noBars chart.name path)
  else
    let (low, high) := chart.yRange
    Work.note (.rendering chart.bars.length path low high)
    Work.change .drawing fun t => t.write path (.drawing (Layout.drawBy ln chart colours))

def BarChart.render (chart : BarChart) (path : String) : Work Unit := chart.renderBy Float.log path

def BarChart.path (plotDir : String) (chart : BarChart) : String := joinPath plotDir (chart.name ++ ".svg")

namespace Plot

def drawCharts (plotDir : String) : List BarChart → Work (List String)
  | [] => pure []
  | chart :: rest => do
    let path := chart.path plotDir
    Work.within (.rendering path) (chart.render path)
    Work.note (.wrote path)
    return path :: (← drawCharts plotDir rest)

def drawPlots (dataDir plotDir : String) : List Plot → Work (List String)
  | [] => pure []
  | plot :: rest => do
    let (path, charts) ← Work.within (.plotting plot.dataset) (Work.look (plot.summarise dataDir))
    Work.note (.charted charts.length path)
    let written ← drawCharts plotDir charts
    return written ++ (← drawPlots dataDir plotDir rest)

-- Without plots the directory is not even made.
def drawAll (plots : List Plot) (dataDir plotDir : String) : Work (List String) := do
  if plots.isEmpty then
    Work.note .noPlots
    return []
  Work.within (.creating plotDir) (Work.advance .obstacle (·.makeDirectories plotDir))
  drawPlots dataDir plotDir plots

end Plot
end BenchCharts
