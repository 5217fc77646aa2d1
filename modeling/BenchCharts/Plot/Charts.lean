import BenchCharts.Chart.Basic
import BenchCharts.Failure
import BenchCharts.Journal.Logged

namespace BenchCharts

def Aggregation.report (a : Aggregation) (t : Table) (kept : Table) (summary : Summary) : List Event :=
  let dropped := match a.warmup with
    | some warmup => [.dropped (t.rows - kept.rows) warmup.column warmup.firstKept]
    | none => []
  dropped ++ [.aggregated kept.rows summary.groups.length]

def Aggregation.logged (a : Aggregation) (t : Table) : Logged Fault Summary :=
  match a.run t with
  | .error fault => .fail fault
  | .ok (kept, summary) => ⟨a.report t kept summary, .ok summary⟩

namespace Plot

def nameColumn : String := "name"
def iterationColumn : String := "iteration"
def buildTimeColumn : String := "build_time_ms"
def bytesColumn : String := "bytes"

structure Workload where
  column : String
  chart : String
  title : String
  axis : Axis

def workloads : List Workload := [
  ⟨"fib_time_ms", "runtime-fib", "Fibonacci", .linear⟩,
  ⟨"gcd_time_ms", "runtime-gcd", "GCD", .log⟩,
  ⟨"sum_time_ms", "runtime-sum", "Object Sum", .log⟩]

def timed (warmup : UInt64) (columns : List String) : Aggregation :=
  ((Aggregation.of nameColumn columns).skipWarmup iterationColumn warmup).scaled .millisToSecs

def Workload.chartOf (w : Workload) (bars : List Bar) : BarChart :=
  let chart := (BarChart.of w.chart "Execution Time (s)" bars).withTitle w.title
  match w.axis with
  | .linear => chart
  | .log => chart.logScale

def workloadCharts (summary : Summary) : List Workload → Logged Failure (List BarChart)
  | [] => pure []
  | w :: rest => do
    let bars ← .of ((summary.ranked w.column).mapError fun f => (Failure.ofFault f).within (.ranking w.column))
    .note (.runtimeBars w.title bars)
    return w.chartOf bars :: (← workloadCharts summary rest)

def aggregation : Plot → Aggregation
  | .buildTime warmup => timed warmup [buildTimeColumn]
  | .runtime warmup => timed warmup (workloads.map (·.column))
  | .binarySize _ => .of nameColumn [bytesColumn]

def chartsOf (summary : Summary) : Plot → Logged Failure (List BarChart)
  | .buildTime _ => do
    let bars ← .of ((summary.ranked buildTimeColumn).mapError .ofFault)
    .note (.buildBars bars)
    return [.of "build" "Compilation Time (s)" bars]
  | .runtime _ => workloadCharts summary workloads
  | .binarySize headroom => do
    let bars ← .of ((summary.ranked bytesColumn).mapError .ofFault)
    .note (.sizeBars bars)
    let chart := (BarChart.of "size" "Download Size (bytes)" bars).logScale.withHeadroom headroom
    return [(chart.withValueLabel .bytes).withoutErrorBars]

def charts (p : Plot) (t : Table) : Logged Failure (List BarChart) := do
  p.chartsOf (← (p.aggregation.logged t).mapError .ofFault)

end Plot
end BenchCharts
