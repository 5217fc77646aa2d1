import BenchCharts.Plot.Basic
import BenchCharts.Summary

namespace BenchCharts
open Text

inductive Level where
  | error
  | warn
  | info
  | debug
  | trace
deriving DecidableEq, Repr

namespace Level

def rank : Level → Nat
  | .error => 1
  | .warn => 2
  | .info => 3
  | .debug => 4
  | .trace => 5

def name : Level → String
  | .error => "ERROR"
  | .warn => "WARN"
  | .info => "INFO"
  | .debug => "DEBUG"
  | .trace => "TRACE"

end Level

def Stats.shown (s : Stats) : String :=
  "Stats \x7b mean: " ++ Number.write .field s.mean ++ ", std: " ++ Number.write .field s.std ++
    s!", count: {s.count} \x7d"

def Bar.shown (b : Bar) : String := "Bar \x7b label: " ++ quoted b.label ++ ", stats: " ++ b.stats.shown ++ " \x7d"

inductive Event where
  | lengthsDiffer (dataset : String) (files : List String)
  | latest (dataset path : String)
  | loaded (rows : Nat) (columns : List String) (path : String)
  | dropped (rows : Nat) (column : String) (firstKept : Float)
  | aggregated (rows groups : Nat)
  | buildBars (bars : List Bar)
  | runtimeBars (title : String) (bars : List Bar)
  | sizeBars (bars : List Bar)
  | noBars (chart path : String)
  | rendering (bars : Nat) (path : String) (low high : Float)
  | noPlots
  | charted (charts : Nat) (path : String)
  | wrote (path : String)
  | noConfig (file : String)
  | configured (settings : Settings) (plots : List Plot)
  -- The failure itself is told apart from the journal.
  | failed

namespace Event

def level : Event → Level
  | .failed => .error
  | .lengthsDiffer .. | .noBars .. => .warn
  | .wrote .. => .info
  | _ => .debug

def target : Event → String
  | .lengthsDiffer .. | .latest .. => "common::locate"
  | .loaded .. => "common::table"
  | .dropped .. | .aggregated .. => "common::aggregate"
  | .buildBars .. => "build_time"
  | .runtimeBars .. => "runtime"
  | .sizeBars .. => "binary_size"
  | .noBars .. | .rendering .. => "common::render"
  | .noPlots | .charted .. | .wrote .. => "common::plot"
  | .noConfig .. | .configured .. => "bench_report::report"
  | .failed => "bench_report"

def message : Event → String
  | .lengthsDiffer dataset files =>
    s!"Output files for {dataset} differ in length, latest by name may not be latest by time: " ++
      listed (files.map quoted)
  | .latest dataset path => s!"Latest {dataset} output: " ++ quoted path
  | .loaded rows columns path =>
    s!"Loaded {rows} rows with columns " ++ listed (columns.map quoted) ++ " from " ++ quoted path
  | .dropped rows column firstKept =>
    s!"Dropped {rows} warm-up rows below {column} " ++ Number.write .plain firstKept
  | .aggregated rows groups => s!"Aggregated {rows} rows into {groups} groups"
  | .buildBars bars => "Build time bars: " ++ listed (bars.map Bar.shown)
  | .runtimeBars title bars => title ++ " bars: " ++ listed (bars.map Bar.shown)
  | .sizeBars bars => "Size bars: " ++ listed (bars.map Bar.shown)
  | .noBars chart path => s!"No bars for {chart}, skipping " ++ quoted path
  | .rendering bars path low high =>
    s!"Rendering {bars} bars to " ++ quoted path ++ ", y " ++ Number.write .plain low ++ ".." ++
      Number.write .plain high
  | .noPlots => "No plots"
  | .charted charts path => s!"Got {charts} charts from " ++ quoted path
  | .wrote path => "Wrote " ++ quoted path
  | .noConfig file => s!"No {file}, using default plots"
  | .configured settings plots =>
    "Settings: " ++ settings.shown ++ ", plots: " ++ listed (plots.map Plot.shown)
  | .failed => ""

def line (e : Event) : String :=
  match e with
  | .failed => e.level.name
  | _ => e.level.name ++ " " ++ e.target ++ ": " ++ e.message

end Event
end BenchCharts
