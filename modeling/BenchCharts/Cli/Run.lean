import BenchCharts.Cli.Invocation
import BenchCharts.Journal.Filter
import BenchCharts.Report.Basic

namespace BenchCharts.Cli
open Files Report

structure Outcome where
  exit : UInt8
  output : String
  failure : Option Failure
  events : List Event
  tree : Tree

def usageExit : UInt8 := 2

def configured (t : Tree) (source : Source) (act : Config → Tree × Printed) : Tree × Printed :=
  match Config.load t source with
  | ⟨events, .error failure⟩ => (t, ⟨"", ⟨events, .error failure⟩⟩)
  | ⟨events, .ok config⟩ =>
    let (next, printed) := act config
    (next, ⟨printed.text, ⟨events ++ printed.logged.events, printed.logged.result⟩⟩)

def perform (t : Tree) : Command → Tree × Printed
  | .list source => configured t source fun config => (t, listing t config)
  | .plot source plotDir => configured t source fun config =>
    let settings := { config.settings with plotDir := plotDir.getD config.settings.plotDir }
    Report.plot t { config with settings }
  | .print source json => configured t source fun config => (t, print t config json)

def journal (logged : Logged Failure Unit) : List Event :=
  match logged.result with
  | .ok () => logged.events
  | .error _ => logged.events ++ [.failed]

-- `general` is the level of all sources that no argument names.
def run (args : List String) (general : Option String) (t : Tree) : Outcome :=
  match Invocation.parse? args with
  | none => ⟨usageExit, "", none, [], t⟩
  | some invocation =>
    match Filter.forRun (general.getD "warn") invocation.log with
    | .error reason => ⟨1, "", some (.of reason), [], t⟩
    | .ok filter =>
      let (t, printed) := perform t invocation.command
      let events := (journal printed.logged).filter filter.isShown
      match printed.logged.result with
      | .ok () => ⟨0, printed.text, none, events, t⟩
      | .error failure => ⟨1, printed.text, some failure, events, t⟩

end BenchCharts.Cli
