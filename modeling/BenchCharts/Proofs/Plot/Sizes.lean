import BenchCharts.Proofs.Aggregation.Ranking
import BenchCharts.Proofs.Plot.RowOrder
import BenchCharts.Proofs.Stats.Mean
import BenchCharts.Proofs.Stats.Scale

namespace BenchCharts

namespace Sheet

variable {s r : Sheet}

def sizes (s : Sheet) (group : String) : List Float :=
  (s.carrying Plot.nameColumn group).filterMap fun row => Cells.number? (s.cell Plot.bytesColumn row)

theorem Shuffled.sizes_perm (order : s.Shuffled r) (group : String) : (s.sizes group).Perm (r.sizes group) := by
  have named : s.groupOf? Plot.nameColumn = r.groupOf? Plot.nameColumn := by
    funext row
    rw [groupOf?, groupOf?, order.header, order.shown, cell_header order.header]
  rw [sizes, sizes, carrying, carrying, named, cell_header order.header]
  exact (order.rows.filter _).filterMap _

end Sheet

namespace Aggregation

variable {a : Aggregation} {s : Sheet} {one : Summary} {group metric : String}

theorem get_sheet (ran : a.summarise s.table = .ok one) (member : group ∈ one.labels) (configured : metric ∈ a.metrics) :
    one.get? group metric = some (.ofValues ((((s.kept a).filter (s.groupOf? a.groupBy · == some group)).filterMap
      fun row => Cells.number? (s.cell metric row)).map a.scale.apply)) := by
  obtain ⟨g, rows, i, grouped, here, place, read⟩ := get_group ran member configured
  obtain ⟨_, entered, _⟩ := group_sheet grouped
  rw [entered, mem_rowsByLabel] at here
  obtain ⟨_, rfl⟩ := here
  have stats := statsOf_sheet grouped group
  unfold labelled at stats
  rw [read, stats, List.getElem?_map, place, Option.map_some]

end Aggregation

namespace Plot

variable {s r : Sheet} {headroom : Float} {charts : List BarChart}

theorem identity_apply : UnitScale.identity.apply = id := by
  funext v
  cases undefined : v.isNaN with
  | false => exact UnitScale.divided_by_one undefined
  | true =>
    rw [Number.eq_undefined undefined]
    decide

theorem sizes_charted (ran : ((binarySize headroom).charts s.table).result = .ok charts) : ∃ chart, charts = [chart] ∧
    (∀ bar ∈ chart.bars, bar.stats = .ofValues (s.sizes bar.label)) ∧
    ∀ label, label ∈ chart.bars.map (·.label) ↔ label ∈ (binarySize headroom).aggregation.labelled s := by
  obtain ⟨summary, summarised, named, ranked⟩ := charts_charted ran
  have single : charts.length = 1 := by simpa [chartNames] using congrArg List.length named
  obtain ⟨chart, rfl⟩ := List.length_eq_one_iff.mp single
  obtain ⟨bars, _⟩ := List.cons.inj ranked
  refine ⟨chart, rfl, ?_, ?_⟩
  · intro bar member
    have given := Aggregation.bar_stats summarised bars member
    have listed : bar.label ∈ summary.labels := (Summary.ranked_labels bars).mem_iff.mp (List.mem_map_of_mem member)
    have kept : s.kept (binarySize headroom).aggregation = s.rows := List.filter_true _
    rw [Aggregation.get_sheet summarised listed (List.mem_singleton.mpr rfl), kept] at given
    have scale : (binarySize headroom).aggregation.scale.apply = id := identity_apply
    rw [scale, List.map_id] at given
    exact (Option.some.inj given).symm
  · intro label
    rw [(Summary.ranked_labels bars).mem_iff, Aggregation.mem_labelled summarised]

theorem sizes_total {t : Table} {made : Table × Summary} (ran : (binarySize headroom).aggregation.run t = .ok made) :
    ∃ charts, ((binarySize headroom).charts t).result = .ok charts := by
  obtain ⟨kept, summary⟩ := made
  have summarised : (binarySize headroom).aggregation.summarise t = .ok summary := bind_ok.mpr ⟨_, ran, rfl⟩
  have logged : ((binarySize headroom).aggregation.logged t).result = .ok summary := by
    unfold Aggregation.logged
    rw [ran]
  have configured : bytesColumn ∈ (binarySize headroom).aggregation.metrics := List.mem_singleton.mpr rfl
  obtain ⟨bars, ranked⟩ := Aggregation.ranked_total summarised configured
  exact ⟨_, Logged.bind_ok.mpr ⟨summary, Logged.mapError_ok.mpr logged, Logged.bind_ok.mpr ⟨bars, mapError_ok.mpr ranked,
    Logged.bind_ok.mpr ⟨(), rfl, rfl⟩⟩⟩⟩

theorem sizes_shuffled (order : s.Shuffled r) (ran : ((binarySize headroom).charts s.table).result = .ok charts) :
    ∃ others, ((binarySize headroom).charts r.table).result = .ok others ∧ others.map (·.name) = charts.map (·.name) ∧
      ∀ chart ∈ charts, ∀ other ∈ others, ∀ bar ∈ chart.bars, Stats.Tallies (Stats.defined (s.sizes bar.label)) →
        ∃ twin ∈ other.bars, twin.label = bar.label ∧ twin.stats.mean = bar.stats.mean ∧
          twin.stats.count = bar.stats.count := by
  obtain ⟨summary, summarised, named, _⟩ := charts_charted ran
  obtain ⟨made, finished, _⟩ := bind_ok.mp summarised
  have outcome : discard ((binarySize headroom).aggregation.run s.table) = .ok () := discard_ok.mpr ⟨made, finished⟩
  rw [Aggregation.discard_run_shuffled order] at outcome
  obtain ⟨remade, refinished⟩ := discard_ok.mp outcome
  obtain ⟨others, reran⟩ := sizes_total refinished
  refine ⟨others, reran, (charts_ok reran).1.trans named.symm, ?_⟩
  obtain ⟨chart, rfl, stats, labels⟩ := sizes_charted ran
  obtain ⟨other, rfl, restats, relabels⟩ := sizes_charted reran
  simp only [List.mem_singleton, forall_eq]
  intro bar member tallies
  have listed : bar.label ∈ other.bars.map (·.label) := by
    rw [relabels, ← (Aggregation.labelled_shuffled order).mem_iff, ← labels]
    exact List.mem_map_of_mem member
  obtain ⟨twin, found, same⟩ := List.mem_map.mp listed
  have equal := Stats.ofValues_perm tallies (order.sizes_perm bar.label)
  rw [← same, ← restats twin found, same, ← stats bar member] at equal
  exact ⟨twin, found, same, equal⟩

end Plot

namespace Stats

-- Whole numbers have a mean that is rounded once and that no other order changes, so neither does the
-- order of the rows change the means in a chart of sizes.
theorem whole_means :
    (∀ values, Tallies (defined values) →
      (ofValues values).count = (defined values).length ∧
      Number.Nearest (ofValues values).mean (((defined values).map Number.value).sum / (defined values).length) ∧
      ∀ others, values.Perm others →
        (ofValues others).mean = (ofValues values).mean ∧ (ofValues others).count = (ofValues values).count) ∧
    ∀ (headroom : Float) (source other : String) (s r : Sheet) (bytes moved : List UInt8),
      s.HeldBy bytes → r.HeldBy moved → s.Shuffled r →
      ∃ t u, Table.ofBytes source bytes = .ok t ∧ Table.ofBytes other moved = .ok u ∧
        ∀ charts, ((Plot.binarySize headroom).charts t).result = .ok charts →
          ∃ others, ((Plot.binarySize headroom).charts u).result = .ok others ∧
            others.map (·.name) = charts.map (·.name) ∧
            ∀ chart ∈ charts, ∀ other ∈ others, ∀ bar ∈ chart.bars, Tallies (defined (s.sizes bar.label)) →
              ∃ twin ∈ other.bars, twin.label = bar.label ∧ twin.stats.mean = bar.stats.mean ∧
                twin.stats.count = bar.stats.count := by
  constructor
  · intro values tallies
    exact ⟨ofValues_count values, ofValues_nearest tallies, fun others order => ofValues_perm tallies order⟩
  · intro headroom source other s r bytes moved held reheld order
    refine ⟨s.table, r.table, Table.ofBytes_exact.mpr ⟨s, held, rfl⟩, Table.ofBytes_exact.mpr ⟨r, reheld, rfl⟩, ?_⟩
    intro charts ran
    exact Plot.sizes_shuffled order ran

def countsOf (rows : List (List String)) (wide : ∀ row ∈ rows, row.length = 2)
    (trimmed : ∀ row ∈ rows, ∀ text ∈ row, Text.Trimmed text) : Sheet where
  header := ["bytes", "name"]
  rows := rows
  named := ⟨"bytes", by simp, by decide⟩
  rectangular := wide
  trimmed := List.forall_mem_cons.mpr ⟨by decide, trimmed⟩

-- One project is measured twice; its rows come the other way round in the second sheet.
def measuredSizes : Sheet := countsOf [["10", "jvm"], ["7", "gwt"], ["3", "jvm"]] (by decide) (by decide)

def shuffledSizes : Sheet := countsOf [["3", "jvm"], ["10", "jvm"], ["7", "gwt"]] (by decide) (by decide)

theorem whole_means_thirds :
    Number.Nearest (ofValues [1.0, Number.undefined, 1.0, -0.0]).mean (2 / 3) ∧
    (ofValues [-0.0, 1.0, Number.undefined, 1.0]).mean = (ofValues [1.0, Number.undefined, 1.0, -0.0]).mean ∧
    measuredSizes.rows ≠ shuffledSizes.rows ∧
    ∃ t u charts others, Table.ofBytes "size.csv" (Text.Utf8.encode "bytes,name\n10,jvm\n7,gwt\n3,jvm\n") = .ok t ∧
      Table.ofBytes "other.csv" (Text.Utf8.encode "bytes,name\n3,jvm\n10,jvm\n7,gwt\n") = .ok u ∧
      ((Plot.binarySize 1.6).charts t).result = .ok charts ∧ ((Plot.binarySize 1.6).charts u).result = .ok others ∧
      ∃ chart ∈ charts, ∃ other ∈ others, ∃ bar ∈ chart.bars, ∃ twin ∈ other.bars,
        bar.label = "JVM" ∧ twin.label = "JVM" ∧ twin.stats.mean = bar.stats.mean := by
  obtain ⟨numbers, files⟩ := whole_means
  have tallies : Tallies (defined [1.0, Number.undefined, 1.0, -0.0]) := by decide +kernel
  have exactly : ((defined [1.0, Number.undefined, 1.0, -0.0]).map Number.value).sum /
      (defined [1.0, Number.undefined, 1.0, -0.0]).length = 2 / 3 := by decide +kernel
  obtain ⟨_, nearest, moved⟩ := numbers _ tallies
  have held : measuredSizes.HeldBy (Text.Utf8.encode "bytes,name\n10,jvm\n7,gwt\n3,jvm\n") := by
    unfold Sheet.HeldBy
    decide +kernel
  have reheld : shuffledSizes.HeldBy (Text.Utf8.encode "bytes,name\n3,jvm\n10,jvm\n7,gwt\n") := by
    unfold Sheet.HeldBy
    decide +kernel
  obtain ⟨t, u, read, reread, plots⟩ := files 1.6 "size.csv" "other.csv" _ _ _ _ held reheld ⟨rfl, by decide⟩
  cases read.symm.trans (Table.ofBytes_exact.mpr ⟨_, held, rfl⟩)
  have gave : ((Plot.binarySize 1.6).charts measuredSizes.table).result.toOption.map (·.map (·.name)) =
      some ["size"] := by decide +kernel
  obtain ⟨charts, found, _⟩ := Option.map_eq_some_iff.mp gave
  have ran := toOption_ok.mp found
  obtain ⟨others, reran, names, bars⟩ := plots charts ran
  obtain ⟨chart, rfl, _, labels⟩ := Plot.sizes_charted ran
  obtain ⟨other, rfl, _⟩ := List.map_eq_singleton_iff.mp names
  have listed : "JVM" ∈ chart.bars.map (·.label) := (labels "JVM").mpr (by decide +kernel)
  obtain ⟨bar, member, named⟩ := List.mem_map.mp listed
  have sized : Tallies (defined (measuredSizes.sizes bar.label)) := by
    rw [named]
    decide +kernel
  obtain ⟨twin, present, same, mean, _⟩ := bars chart (by simp) other (by simp) bar member sized
  exact ⟨exactly ▸ nearest, (moved _ (by decide)).1, by decide, _, u, _, _, read, reread, ran, reran, chart, by simp, other,
    by simp, bar, member, twin, present, named, same.trans named, mean⟩

end Stats
end BenchCharts
