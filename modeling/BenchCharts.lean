import BenchCharts.Main
import BenchCharts.Proofs.Text.Blank
import BenchCharts.Proofs.Text.Utf8
import BenchCharts.Proofs.Csv.Contents
import BenchCharts.Proofs.Outcome
import BenchCharts.Proofs.Table.Lookup
import BenchCharts.Proofs.Aggregation.Grouping
import BenchCharts.Proofs.Aggregation.RowByRow
import BenchCharts.Proofs.Files.Tree
import BenchCharts.Proofs.Files.Path
import BenchCharts.Proofs.Plot.Run
import BenchCharts.Proofs.Plot.Charts
import BenchCharts.Proofs.Plot.Written
import BenchCharts.Proofs.Dataset.Name
import BenchCharts.Proofs.Dataset.Listing
import BenchCharts.Proofs.Dataset.StampOrder
import BenchCharts.Proofs.Dataset.Latest
import BenchCharts.Proofs.Csv.Written
import BenchCharts.Proofs.Table.Sheet
import BenchCharts.Proofs.Table.Written
import BenchCharts.Proofs.Table.Alignment
import BenchCharts.Proofs.Aggregation.Sheet
import BenchCharts.Proofs.Number.Nearest
import BenchCharts.Proofs.Number.Pattern
import BenchCharts.Proofs.Number.Shortest
import BenchCharts.Proofs.Number.RoundTrip
import BenchCharts.Proofs.Aggregation.Identifiers
import BenchCharts.Proofs.Number.Order
import BenchCharts.Proofs.Plot.Warmup
import BenchCharts.Proofs.Plot.RowOrder
import BenchCharts.Proofs.Dataset.Stable
import BenchCharts.Proofs.Plot.Painted
import BenchCharts.Proofs.Plot.Unknown
import BenchCharts.Proofs.Plot.Stopped
import BenchCharts.Proofs.Plot.Independent
import BenchCharts.Proofs.Dataset.Outputs
import BenchCharts.Proofs.Dataset.Chronology
import BenchCharts.Proofs.Plot.Rerun
import BenchCharts.Proofs.Report.Agreement
import BenchCharts.Proofs.Number.Size
import BenchCharts.Proofs.Number.Rounding
import BenchCharts.Proofs.Number.Significand
import BenchCharts.Proofs.Number.Arithmetic
import BenchCharts.Proofs.Number.Bounds
import BenchCharts.Proofs.Chart.Range
import BenchCharts.Proofs.Aggregation.Ranking
import BenchCharts.Proofs.Aggregation.Checks
import BenchCharts.Proofs.Table.Flaws
import BenchCharts.Proofs.Number.Value
import BenchCharts.Proofs.Number.Monotone
import BenchCharts.Proofs.Number.Places
import BenchCharts.Proofs.Chart.Scale
import BenchCharts.Proofs.Chart.Slots
import BenchCharts.Proofs.Chart.Heights
import BenchCharts.Proofs.Chart.Labels
import BenchCharts.Proofs.Table.Labels
import BenchCharts.Proofs.Number.Closest
import BenchCharts.Proofs.Number.Whole
import BenchCharts.Proofs.Number.Unsigned
import BenchCharts.Proofs.Stats.Scale
import BenchCharts.Proofs.Plot.Sizes
import BenchCharts.Proofs.Stats.Deviation
