import BenchCharts.Fault

namespace BenchCharts
open Text

inductive Reason where
  | fault (fault : Fault)
  | obstacle (obstacle : Files.Obstacle)
  | drawing (obstacle : Files.Obstacle)
  | notText
  | badConfig
  | noPlotReads (dataset : String)
  | badDirective
  | badLevel

def Reason.chain : Reason → List String
  | .fault f => f.chain
  | .obstacle o => [o.message]
  | .drawing o => ["backend error: Drawing backend error: " ++ o.message]
  | .notText => ["stream did not contain valid UTF-8"]
  | .badConfig => ["invalid configuration"]
  | .noPlotReads dataset => ["No plot reads dataset " ++ dataset]
  | .badDirective => ["invalid filter directive"]
  | .badLevel =>
    ["error parsing level filter: expected one of \"off\", \"error\", \"warn\", \"info\", \"debug\", " ++
      "\"trace\", or a number 0-5"]

inductive Context where
  | creating (path : String)
  | plotting (dataset : String)
  | summarising (dataset : String)
  | building (dataset path : String)
  | ranking (column : String)
  | rendering (path : String)
  | readingConfig (file : String)
  | parsingConfig (file : String)

def Context.message : Context → String
  | .creating path => "Creating " ++ quoted path
  | .plotting dataset => "Plotting " ++ dataset
  | .summarising dataset => "Summarising " ++ dataset
  | .building dataset path => s!"Building {dataset} charts from " ++ quoted path
  | .ranking column => "Rank " ++ column
  | .rendering path => "Rendering " ++ quoted path
  | .readingConfig file => "Read " ++ file
  | .parsingConfig file => "Parse " ++ file

structure Failure where
  contexts : List Context
  reason : Reason

namespace Failure

def of (reason : Reason) : Failure := ⟨[], reason⟩
def ofFault (fault : Fault) : Failure := ⟨[], .fault fault⟩

def within (context : Context) (f : Failure) : Failure := { f with contexts := context :: f.contexts }

-- Outermost first.
def chain (f : Failure) : List String := f.contexts.map Context.message ++ f.reason.chain

def message (f : Failure) : String := f.chain.headD ""

def fault? (f : Failure) : Option Fault :=
  match f.reason with
  | .fault fault => some fault
  | _ => none

end Failure
end BenchCharts
