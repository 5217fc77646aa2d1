import BenchCharts.Number.Style
import BenchCharts.Text.Quoted

namespace BenchCharts

-- Iterations before the given one are warm-up; headroom is the room above the largest bar.
inductive Plot where
  | buildTime (warmupIterations : UInt64)
  | runtime (warmupIterations : UInt64)
  | binarySize (headroom : Float)

namespace Plot

def defaultWarmup : UInt64 := 3
def defaultHeadroom : Float := 1.6

def defaults : List Plot := [.buildTime defaultWarmup, .runtime defaultWarmup, .binarySize defaultHeadroom]

def dataset : Plot → String
  | .buildTime _ => "build"
  | .runtime _ => "runtime"
  | .binarySize _ => "size"

def kind : Plot → String
  | .buildTime _ => "BuildTime"
  | .runtime _ => "Runtime"
  | .binarySize _ => "BinarySize"

def shown : Plot → String
  | .buildTime n => s!"BuildTime \x7b warmup_iterations: {n} \x7d"
  | .runtime n => s!"Runtime \x7b warmup_iterations: {n} \x7d"
  | .binarySize headroom => "BinarySize \x7b headroom: " ++ Number.write .field headroom ++ " \x7d"

end Plot

structure Settings where
  dataDir : String := "data"
  plotDir : String := "plots"
deriving DecidableEq, Repr

def Settings.shown (s : Settings) : String :=
  "Settings \x7b data_dir: " ++ Text.quoted s.dataDir ++ ", plot_dir: " ++ Text.quoted s.plotDir ++ " \x7d"

end BenchCharts
