import BenchCharts.Config.Load
import BenchCharts.Proofs.Plot.Stopped

namespace BenchCharts.Plot
open Files Text

-- The paths of the charts of a plot.
def paths (plotDir : String) (plot : Plot) : List String :=
  plot.chartNames.map fun name => joinPath plotDir (name ++ ".svg")

variable {t made after : Tree} {base place : Place} {plot other : Plot} {plots others : List Plot} {charts : List BarChart}
  {dataDir plotDir name path : String} {events : List Event} {written : List String}

theorem chartNames_apart (one : name ∈ plot.chartNames) (two : name ∈ other.chartNames) :
    plot.dataset = other.dataset := by
  cases plot <;> cases other <;> simp_all [chartNames, workloads, dataset]

namespace Clear

variable (clear : plot.Clear dataDir plotDir made)

include clear

theorem named : (plot.chartsIn dataDir made).map (·.name) = plot.chartNames := by
  obtain ⟨path, charted⟩ := clear.read
  exact (summarise_named charted).1

theorem reported : (plot.chartsIn dataDir made).map (·.path plotDir) = plot.paths plotDir := by
  rw [paths, ← clear.named, List.map_map]
  rfl

end Clear

theorem reported_paths (clear : ∀ plot ∈ plots, plot.Clear dataDir plotDir made) :
    (plots.flatMap (chartsIn dataDir made)).map (·.path plotDir) = plots.flatMap (paths plotDir) := by
  rw [List.map_flatMap]
  exact List.flatMap_congr fun plot member => (clear plot member).reported

theorem clear_drawn (asked : plots ≠ []) (making : t.makeDirectories plotDir = .ok made)
    (leads : made.Leads plotDir base) (clear : ∀ plot ∈ plots, plot.Clear dataDir plotDir made) :
    ∃ after events, drawAll plots dataDir plotDir t = (after, ⟨events, .ok (plots.flatMap (paths plotDir))⟩) ∧
      Painted base made (plots.flatMap (chartsIn dataDir made)) after := by
  obtain ⟨after, finished, painted⟩ := drawPlots_all leads .start (.inl rfl) clear
  rw [← drawAll_made asked making, reported_paths clear] at finished
  obtain ⟨events, ran⟩ := Work.outcome_exact.mp finished
  exact ⟨after, events, ran, painted⟩

theorem drawn_clear (asked : plots ≠ []) (ran : drawAll plots dataDir plotDir t = (after, ⟨events, .ok written⟩)) :
    ∃ made base, t.makeDirectories plotDir = .ok made ∧ made.Leads plotDir base ∧
      (∀ plot ∈ plots, plot.Clear dataDir plotDir made) ∧ written = plots.flatMap (paths plotDir) ∧
      Painted base made (plots.flatMap (chartsIn dataDir made)) after := by
  have ended : (drawAll plots dataDir plotDir).outcome t = (after, .ok written) := Work.outcome_exact.mpr ⟨events, ran⟩
  cases making : t.makeDirectories plotDir with
  | error halt =>
    rw [drawAll_unmade asked making] at ended
    cases ended
  | ok made =>
    obtain ⟨base, leads⟩ := Tree.makeDirectories_leads making
    rcases clear_or_stops dataDir plotDir made plots with clear | ⟨drawn, failure, stops⟩
    · obtain ⟨_, _, finished, painted⟩ := clear_drawn asked making leads clear
      cases ran.symm.trans finished
      exact ⟨made, base, rfl, leads, clear, rfl, painted⟩
    · obtain ⟨_, stopped, _⟩ := drawPlots_stop leads .start (.inl rfl) stops
      rw [← drawAll_made asked making, ended] at stopped
      cases stopped

section Datasets

variable (clear : ∀ plot ∈ plots, plot.Clear dataDir plotDir made)

include clear

-- Only the plots of one dataset matter for the file of a chart.
theorem lastAt_dataset (member : name ∈ other.chartNames) :
    lastAt? base (base ++ [Utf8.encode (name ++ ".svg")]) (plots.flatMap (chartsIn dataDir made)) =
      lastAt? base (base ++ [Utf8.encode (name ++ ".svg")])
        ((plots.filter (·.dataset == other.dataset)).flatMap (chartsIn dataDir made)) := by
  induction plots with
  | nil => rfl
  | cons plot plots ih =>
    obtain ⟨here, later⟩ := List.forall_mem_cons.mp clear
    rw [List.flatMap_cons, lastAt_append, ih later]
    by_cases same : plot.dataset = other.dataset
    · rw [List.filter_cons_of_pos (by simpa using same), List.flatMap_cons, lastAt_append]
    · rw [List.filter_cons_of_neg (by simpa using same)]
      have away : lastAt? base (base ++ [Utf8.encode (name ++ ".svg")]) (plot.chartsIn dataDir made) = none := by
        refine lastAt_none.mpr ?_
        intro chart listed _ there
        have equal : chart.name = name := (String.append_left_inj ".svg").mp (Tree.place_injective there)
        refine same (chartNames_apart ?_ member)
        rw [← here.named, ← equal]
        exact List.mem_map_of_mem listed
      rw [away, Option.or_none]

theorem lastAt_chart {chart : BarChart} (found : lastAt? base place (plots.flatMap (chartsIn dataDir made)) = some chart) :
    ∃ plot ∈ plots, chart.name ∈ plot.chartNames ∧ place = base ++ [Utf8.encode (chart.name ++ ".svg")] := by
  obtain ⟨listed, _, here⟩ := lastAt_some found
  obtain ⟨plot, member, inside⟩ := List.mem_flatMap.mp listed
  refine ⟨plot, member, ?_, here.symm⟩
  rw [← (clear plot member).named]
  exact List.mem_map_of_mem inside

theorem lastAt_reordered {chart : BarChart} (clear' : ∀ plot ∈ others, plot.Clear dataDir plotDir made)
    (same : ∀ dataset, others.filter (·.dataset == dataset) = plots.filter (·.dataset == dataset))
    (found : lastAt? base place (plots.flatMap (chartsIn dataDir made)) = some chart) :
    lastAt? base place (others.flatMap (chartsIn dataDir made)) = some chart := by
  obtain ⟨plot, _, member, rfl⟩ := lastAt_chart clear found
  rw [lastAt_dataset clear member] at found
  rw [lastAt_dataset clear' member, same]
  exact found

end Datasets

section Restricted

variable {config : Config} {dataset : String} (asked : ∃ plot ∈ config.plots, plot.dataset = dataset)

include asked

theorem retained_filled : (config.retainDataset dataset).plots ≠ [] := by
  obtain ⟨plot, member, reads⟩ := asked
  exact List.ne_nil_of_mem (List.mem_filter.mpr ⟨member, by simpa using reads⟩)

theorem restrict_retained : config.restrict (some dataset) = .ok (config.retainDataset dataset) := by
  rw [Config.restrict]
  exact if_neg (by simpa using retained_filled asked)

end Restricted

theorem paths_apart (one : path ∈ plot.paths plotDir) (two : path ∈ other.paths plotDir) :
    plot.dataset = other.dataset := by
  obtain ⟨name, member, rfl⟩ := List.mem_map.mp one
  obtain ⟨name', member', same⟩ := List.mem_map.mp two
  have equal := joinPath_injective (chartNames_plain other name' member') (chartNames_plain plot name member) same
  rw [(String.append_left_inj ".svg").mp equal] at member'
  exact chartNames_apart member member'

theorem paths_filter {dataset : String} {keep : String → Bool}
    (exactly : ∀ plot ∈ plots, ∀ path ∈ plot.paths plotDir, (keep path = true ↔ plot.dataset = dataset)) :
    (plots.flatMap (paths plotDir)).filter keep =
      (plots.filter (·.dataset == dataset)).flatMap (paths plotDir) := by
  induction plots with
  | nil => rfl
  | cons plot plots ih =>
    obtain ⟨here, later⟩ := List.forall_mem_cons.mp exactly
    rw [List.flatMap_cons, List.filter_append, ih later]
    by_cases reads : plot.dataset = dataset
    · have all : (plot.paths plotDir).filter keep = plot.paths plotDir :=
        List.filter_eq_self.mpr fun path listed => (here path listed).mpr reads
      rw [all, List.filter_cons_of_pos (by simpa using reads), List.flatMap_cons]
    · have none : (plot.paths plotDir).filter keep = [] :=
        List.filter_eq_nil_iff.mpr fun path listed held => reads ((here path listed).mp held)
      rw [none, List.filter_cons_of_neg (by simpa using reads), List.nil_append]

-- The paths of one dataset stand among those of all plots in their order.
theorem paths_retained (plots : List Plot) (dataset : String) :
    (plots.filter (·.dataset == dataset)).flatMap (paths plotDir) =
      (plots.flatMap (paths plotDir)).filter
        (· ∈ (plots.filter (·.dataset == dataset)).flatMap (paths plotDir)) := by
  refine (paths_filter ?_).symm
  intro plot member path listed
  rw [decide_eq_true_iff]
  constructor
  · intro held
    obtain ⟨other, kept, there⟩ := List.mem_flatMap.mp held
    rw [paths_apart listed there]
    simpa using (List.mem_filter.mp kept).2
  · intro reads
    exact List.mem_flatMap.mpr ⟨plot, List.mem_filter.mpr ⟨member, by simpa using reads⟩, listed⟩

-- Without the plots of other datasets, the files of one dataset come out the same.
theorem restricted_drawn {config : Config} {dataset : String} (asked : ∃ plot ∈ config.plots, plot.dataset = dataset)
    (ran : drawAll config.plots dataDir plotDir t = (after, ⟨events, .ok written⟩)) :
    ∃ restricted later kept,
      drawAll (config.retainDataset dataset).plots dataDir plotDir t = (restricted, ⟨later, .ok kept⟩) ∧
      kept = (config.retainDataset dataset).plots.flatMap (paths plotDir) ∧ kept = written.filter (· ∈ kept) ∧
      ∀ path ∈ kept, restricted.find path = after.find path := by
  have filled := retained_filled asked
  obtain ⟨plot, member, _⟩ := asked
  obtain ⟨made, base, making, leads, clear, rfl, painted⟩ := drawn_clear (List.ne_nil_of_mem member) ran
  have clear' : ∀ plot ∈ (config.retainDataset dataset).plots, plot.Clear dataDir plotDir made :=
    fun plot kept => clear plot (List.mem_of_mem_filter kept)
  obtain ⟨restricted, later, finished, painted'⟩ := clear_drawn filled making leads clear'
  refine ⟨restricted, later, _, finished, rfl, paths_retained config.plots dataset, ?_⟩
  intro path listed
  obtain ⟨plot, kept, there⟩ := List.mem_flatMap.mp listed
  obtain ⟨name, member, rfl⟩ := List.mem_map.mp there
  have reads : plot.dataset = dataset := by simpa using (List.mem_filter.mp kept).2
  have plain := chartNames_plain plot name member
  have same : restricted.at? (base ++ [Utf8.encode (name ++ ".svg")]) = after.at? (base ++ [Utf8.encode (name ++ ".svg")]) := by
    rw [painted'.shown, painted.shown, lastAt_dataset clear member, reads]
    rfl
  rw [(painted'.leads leads).find plain, (painted.leads leads).find plain, same]

-- Another order of the plots that is the same for every dataset leaves the same tree.
theorem reordered_drawn (order : others.Perm plots)
    (same : ∀ dataset, others.filter (·.dataset == dataset) = plots.filter (·.dataset == dataset))
    (ran : drawAll plots dataDir plotDir t = (after, ⟨events, .ok written⟩)) :
    ∃ reordered later paths, drawAll others dataDir plotDir t = (reordered, ⟨later, .ok paths⟩) ∧
      reordered.here = after.here ∧ ∀ place, reordered.at? place = after.at? place := by
  by_cases idle : plots = []
  · subst idle
    rw [order.eq_nil]
    exact ⟨after, events, written, ran, rfl, fun _ => rfl⟩
  · obtain ⟨made, base, making, leads, clear, _, painted⟩ := drawn_clear idle ran
    have asked : others ≠ [] := by
      rintro rfl
      exact idle order.symm.eq_nil
    have clear' : ∀ plot ∈ others, plot.Clear dataDir plotDir made :=
      fun plot member => clear plot (order.mem_iff.mp member)
    obtain ⟨reordered, later, finished, painted'⟩ := clear_drawn asked making leads clear'
    refine ⟨reordered, later, _, finished, painted'.stays.trans painted.stays.symm, ?_⟩
    intro place
    have equal : lastAt? base place (others.flatMap (chartsIn dataDir made)) =
        lastAt? base place (plots.flatMap (chartsIn dataDir made)) := by
      refine Option.ext ?_
      intro chart
      exact ⟨lastAt_reordered clear' clear fun dataset => (same dataset).symm, lastAt_reordered clear clear' same⟩
    rw [painted'.shown, painted.shown, equal]

theorem plots_independent {config : Config}
    (ran : drawAll config.plots dataDir plotDir t = (after, ⟨events, .ok written⟩)) :
    (∀ dataset, (∃ plot ∈ config.plots, plot.dataset = dataset) →
      config.restrict (some dataset) = .ok (config.retainDataset dataset) ∧
      ∃ restricted later kept,
        drawAll (config.retainDataset dataset).plots dataDir plotDir t = (restricted, ⟨later, .ok kept⟩) ∧
        kept = (config.retainDataset dataset).plots.flatMap (paths plotDir) ∧ kept = written.filter (· ∈ kept) ∧
        ∀ path ∈ kept, restricted.find path = after.find path) ∧
    ∀ others : List Plot, others.Perm config.plots →
      (∀ dataset, others.filter (·.dataset == dataset) = config.plots.filter (·.dataset == dataset)) →
      ∃ reordered later paths, drawAll others dataDir plotDir t = (reordered, ⟨later, .ok paths⟩) ∧
        reordered.here = after.here ∧ ∀ place, reordered.at? place = after.at? place :=
  ⟨fun _ asked => ⟨restrict_retained asked, restricted_drawn asked ran⟩,
    fun _ order same => reordered_drawn order same ran⟩

theorem clear_at (located : (Dataset.latestOutput made dataDir plot.dataset).result = .ok path)
    (drawable : ((Table.load made path).result.toOption.bind fun table => (plot.charts table).result.toOption).any
      (·.all fun chart => (chart.trial plotDir made).toOption.isSome) = true) : plot.Clear dataDir plotDir made := by
  obtain ⟨charts, held, all⟩ := (Option.any_eq_true _ _).mp drawable
  obtain ⟨table, loaded, built⟩ := Option.bind_eq_some_iff.mp held
  have charted := summarise_of located (toOption_ok.mp loaded) (toOption_ok.mp built)
  refine clear_exact.mpr ⟨by rw [charted]; rfl, ?_⟩
  rw [chartsIn_ok charted]
  exact List.all_eq_true.mp all

-- Outputs of two datasets in the directory that the charts go to.
def pairFiles : List String := ["build-0-0-0-0-0-1.csv", "size-0-0-0-0-0-1.csv"]

def pairTree : Tree :=
  (Tree.empty.plant [Utf8.encode "data", Utf8.encode "build-0-0-0-0-0-1.csv"]
    (.file (.bytes (Utf8.encode "name,iteration,build_time_ms\njvm,3,5\n")))).plant
      [Utf8.encode "data", Utf8.encode "size-0-0-0-0-0-1.csv"] (.file (.bytes (Utf8.encode "name,bytes\njvm,1\n")))

def pairConfig : Config := ⟨⟨"data", "data"⟩, [.binarySize 1.6, .buildTime 3]⟩

theorem pair_clear : ∃ made, pairTree.makeDirectories "data" = .ok made ∧
    ∀ plot ∈ pairConfig.plots, plot.Clear "data" "data" made := by
  have given : (pairTree.makeDirectories "data").toOption.any fun made =>
      ((made.list "data").toOption.map (·.filterMap Utf8.text?) == some pairFiles) &&
      pairConfig.plots.all fun plot =>
        ((Table.load made (joinPath "data" (plot.dataset ++ "-0-0-0-0-0-1.csv"))).result.toOption.bind
          fun table => (plot.charts table).result.toOption).any
            (·.all fun chart => (chart.trial "data" made).toOption.isSome) := by
    decide +kernel
  cases making : pairTree.makeDirectories "data" with
  | error halt =>
    rw [making] at given
    cases given
  | ok made =>
    rw [making] at given
    obtain ⟨held, ready⟩ := Bool.and_eq_true_iff.mp given
    have seen : Dataset.fileNames made "data" = .ok pairFiles :=
      Dataset.fileNames_sorted (by decide +kernel) (beq_iff_eq.mp held)
    have single : pairConfig.plots.all fun plot =>
        pairFiles.filter (Dataset.isOutput plot.dataset) == [plot.dataset ++ "-0-0-0-0-0-1.csv"] := by
      decide +kernel
    refine ⟨made, rfl, ?_⟩
    intro plot member
    have listed : Dataset.files made "data" plot.dataset = .ok [plot.dataset ++ "-0-0-0-0-0-1.csv"] := by
      rw [Dataset.files_eq, seen, ← beq_iff_eq.mp (List.all_eq_true.mp single plot member)]
      rfl
    exact clear_at (Dataset.latestOutput_ok.mpr ⟨_, listed, rfl⟩) (List.all_eq_true.mp ready plot member)

theorem plots_independent_pair : ∃ after events restricted later reordered others, ∃ paths,
    drawAll pairConfig.plots "data" "data" pairTree = (after, ⟨events, .ok ["data/size.svg", "data/build.svg"]⟩) ∧
    drawAll (pairConfig.retainDataset "build").plots "data" "data" pairTree =
      (restricted, ⟨later, .ok ["data/build.svg"]⟩) ∧
    restricted.find "data/build.svg" = after.find "data/build.svg" ∧
    drawAll pairConfig.plots.reverse "data" "data" pairTree = (reordered, ⟨others, .ok paths⟩) ∧
    ∀ place, reordered.at? place = after.at? place := by
  obtain ⟨made, making, clear⟩ := pair_clear
  obtain ⟨base, leads⟩ := Tree.makeDirectories_leads making
  have asked : pairConfig.plots ≠ [] := List.cons_ne_nil _ _
  obtain ⟨after, events, ran, _⟩ := clear_drawn asked making leads clear
  have written : pairConfig.plots.flatMap (paths "data") = ["data/size.svg", "data/build.svg"] := by decide +kernel
  have kept : (pairConfig.retainDataset "build").plots.flatMap (paths "data") = ["data/build.svg"] := by decide +kernel
  rw [written] at ran
  obtain ⟨only, order⟩ := plots_independent ran
  obtain ⟨_, restricted, later, _, finished, rfl, _, same⟩ :=
    only "build" ⟨.buildTime 3, List.mem_cons_of_mem _ List.mem_cons_self, rfl⟩
  have orders : ∀ dataset,
      pairConfig.plots.reverse.filter (·.dataset == dataset) = pairConfig.plots.filter (·.dataset == dataset) := by
    intro dataset
    rcases eq_or_ne "build" dataset with rfl | build
    · simp [pairConfig, Plot.dataset]
    · simp [pairConfig, Plot.dataset, List.filter_cons, build]
  obtain ⟨reordered, others, paths, again, _, equal⟩ := order _ (List.reverse_perm _) orders
  rw [kept] at finished same
  exact ⟨after, events, restricted, later, reordered, others, paths, ran, finished,
    same _ List.mem_cons_self, again, equal⟩

end BenchCharts.Plot
