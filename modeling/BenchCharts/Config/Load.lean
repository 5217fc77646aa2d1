import BenchCharts.Config.Basic
import BenchCharts.Failure
import BenchCharts.Files.Tree
import BenchCharts.Journal.Logged

namespace BenchCharts

structure Source where
  configFile : String := "config.yaml"
  dataDir : Option String := none
  only : Option String := none

namespace Config
open Files

def ofFile (t : Tree) (file : String) : Except Failure Config :=
  match t.read file with
  | .error obstacle => .error ((Failure.of (.obstacle obstacle)).within (.readingConfig file))
  | .ok bytes =>
    match Text.Utf8.text? bytes with
    | none => .error ((Failure.of .notText).within (.readingConfig file))
    | some text =>
      match parse? text with
      | none => .error ((Failure.of .badConfig).within (.parsingConfig file))
      | some config => .ok config

def read (t : Tree) (file : String) : Logged Failure Config := do
  if t.holds file then .of (ofFile t file)
  else
    .note (.noConfig file)
    return .default

-- A restriction to one dataset has to leave a plot.
def restrict (c : Config) : Option String → Except Failure Config
  | none => .ok c
  | some dataset =>
    let kept := c.retainDataset dataset
    if kept.plots.isEmpty then .error (.of (.noPlotReads dataset)) else .ok kept

def load (t : Tree) (source : Source) : Logged Failure Config := do
  let config ← read t source.configFile
  let settings := { config.settings with dataDir := source.dataDir.getD config.settings.dataDir }
  let config ← .of ({ config with settings }.restrict source.only)
  .note (.configured config.settings config.plots)
  return config

end Config
end BenchCharts
