import BenchCharts.Proofs.Dataset.Outputs
import BenchCharts.Proofs.Plot.Refused

namespace BenchCharts
open Files Text

variable {t made : Tree} {start : Place} {way : List String} {directory name path : String} {names : List Name} {table : Table}

theorem Table.load_found (loaded : (Table.load t path).result = .ok table) :
    ∃ place content, t.find path = .ok (place, .file content) := by
  obtain ⟨read, given, _⟩ := Logged.bind_ok.mp loaded
  cases found : t.find path with
  | error obstacle =>
    rw [found] at given
    cases given
  | ok entered =>
    obtain ⟨place, _ | content⟩ := entered
    · rw [found] at given
      cases given
    · exact ⟨place, content, rfl⟩

-- A directory that was made is no table, so the latest output is one that was there before.
theorem Dataset.latestOutput_grown (keeps : Tree.Keeps t made) (grown : ∀ place, Tree.Grown t made start way place)
    (readable : t.list directory = .ok names) (unbroken : '/' ∉ name.toList)
    (located : (latestOutput made directory name).result = .ok path)
    (loaded : (Table.load made path).result = .ok table) :
    (latestOutput t directory name).result = .ok path ∧ (Table.load t path).result = .ok table := by
  obtain ⟨base, resolved, entered⟩ := Tree.list_found readable
  have leads := Tree.leads_of_resolve resolved entered
  obtain ⟨found, listed, ascending, below⟩ := files_at name resolved entered
  obtain ⟨others, listed', _, below'⟩ := files_at name (keeps.resolve resolved) (keeps.directories base entered)
  obtain ⟨latest, member, rfl, above⟩ := latestOutput_last listed' located
  have output := ((below' latest).mp member).1
  have plain := output_plain unbroken output
  obtain ⟨place, content, there⟩ := Table.load_found loaded
  obtain ⟨resolved', held⟩ := Tree.find_ok.mp there
  cases ((leads.kept keeps).file latest plain).symm.trans resolved'
  have before := (grown _).unmade held
  have present : latest ∈ found := (below latest).mpr ⟨output, by rw [before]; rfl⟩
  have carried : ∀ file ∈ found, file ∈ others := by
    intro file member
    obtain ⟨output, held⟩ := (below file).mp member
    obtain ⟨entry, held⟩ := Option.isSome_iff_exists.mp held
    exact (below' file).mpr ⟨output, by rw [(grown _).kept held]; rfl⟩
  have last := last_greatest ascending present fun file member => above file (carried file member)
  have located' : (latestOutput t directory name).result = .ok (joinPath directory latest) := by
    rw [latestOutput_found listed, latestOf, last]
  have unchanged : Table.load t (joinPath directory latest) = Table.load made (joinPath directory latest) := by
    unfold Table.load
    rw [there, leads.find plain, before]
  exact ⟨located', by rw [unchanged, loaded]⟩

theorem Plot.summarise_grown {plot : Plot} {charts : List BarChart} (keeps : Tree.Keeps t made)
    (grown : ∀ place, Tree.Grown t made start way place) (readable : t.list directory = .ok names)
    (charted : (plot.summarise directory made).result = .ok (path, charts)) :
    (plot.summarise directory t).result = .ok (path, charts) := by
  obtain ⟨table, located, loaded, built⟩ := summarise_ok charted
  obtain ⟨located', loaded'⟩ := Dataset.latestOutput_grown keeps grown readable plot.dataset_unbroken located loaded
  exact summarise_of located' loaded' built

namespace Report

variable {after : Tree} {config : Config} {plots : List Plot} {dataDir plotDir : String} {json : Bool}
  {given : List (String × List BarChart)} {events : List Event} {written : List String} {failure : Failure}

def sources (t : Tree) (dataDir : String) (plots : List Plot) : Except Failure (List (String × List BarChart)) :=
  plots.mapM fun plot => (summary t dataDir plot).result

def textOf (json : Bool) (given : List (String × List BarChart)) : String :=
  if json then jsonText (given.flatMap (·.2)) else String.join (given.map fun source => summaryText source.1 source.2)

theorem summaries_result (t : Tree) (dataDir : String) (plots : List Plot) :
    (summaries t dataDir plots).logged.result = (sources t dataDir plots).map fun _ => () := by
  induction plots with
  | nil => rfl
  | cons plot plots ih =>
    unfold summaries sources
    rw [List.mapM_cons]
    rcases summary t dataDir plot with ⟨events, _ | ⟨path, charts⟩⟩
    · rfl
    · dsimp only
      rw [ih]
      unfold sources
      cases plots.mapM fun plot => (summary t dataDir plot).result <;> rfl

theorem sources_first {plot : Plot} (ran : sources t dataDir (plot :: plots) = .ok given) :
    ∃ path charts others, (summary t dataDir plot).result = .ok (path, charts) ∧
      sources t dataDir plots = .ok others ∧ given = (path, charts) :: others := by
  rw [sources, List.mapM_cons] at ran
  obtain ⟨⟨path, charts⟩, found, rest⟩ := bind_ok.mp ran
  obtain ⟨others, read, made⟩ := bind_ok.mp rest
  cases made
  exact ⟨path, charts, others, found, read, rfl⟩

theorem summaries_text (ran : sources t dataDir plots = .ok given) :
    (summaries t dataDir plots).text = textOf false given := by
  induction plots generalizing given with
  | nil =>
    cases ran
    rfl
  | cons plot plots ih =>
    obtain ⟨path, charts, others, found, read, rfl⟩ := sources_first ran
    unfold summaries
    rcases seen : summary t dataDir plot with ⟨events, result⟩
    rw [seen] at found
    cases found
    simp [ih read, textOf, String.join_cons]

theorem charts_result (t : Tree) (dataDir : String) (plots : List Plot) :
    (charts t dataDir plots).result = (sources t dataDir plots).map (·.flatMap (·.2)) := by
  induction plots with
  | nil => rfl
  | cons plot plots ih =>
    unfold charts sources
    rw [List.mapM_cons, Logged.result_bind]
    cases (summary t dataDir plot).result with
    | error failure => rfl
    | ok found =>
      change (charts t dataDir plots >>= _).result = _
      rw [Logged.result_bind, ih]
      unfold sources
      cases plots.mapM fun plot => (summary t dataDir plot).result <;> rfl

theorem print_result (t : Tree) (config : Config) (json : Bool) : (print t config json).logged.result =
    (sources t config.settings.dataDir config.plots).map fun _ => () := by
  cases json with
  | false => exact summaries_result t config.settings.dataDir config.plots
  | true =>
    simp only [print, if_true, jsonSummaries, charts_result]
    cases sources t config.settings.dataDir config.plots <;> rfl

theorem print_text (ran : sources t config.settings.dataDir config.plots = .ok given) :
    (print t config json).text = textOf json given := by
  cases json with
  | false => exact summaries_text ran
  | true =>
    simp only [print, if_true, jsonSummaries, charts_result, ran]
    rfl

theorem print_ok : (print t config json).logged.result = .ok () ↔
    ∃ given, sources t config.settings.dataDir config.plots = .ok given := by
  rw [print_result, map_ok]
  simp

theorem sources_ok (ran : sources t dataDir plots = .ok given) :
    given.flatMap (·.2) = plots.flatMap (Plot.chartsIn dataDir t) ∧
      ∀ plot ∈ plots, ∃ found, (plot.summarise dataDir t).result = .ok found := by
  induction plots generalizing given with
  | nil =>
    cases ran
    exact ⟨rfl, nofun⟩
  | cons plot plots ih =>
    obtain ⟨path, charts, others, found, read, rfl⟩ := sources_first ran
    have charted := mapError_ok.mp found
    obtain ⟨same, later⟩ := ih read
    exact ⟨by simp [same, Plot.chartsIn_ok charted], List.forall_mem_cons.mpr ⟨⟨_, charted⟩, later⟩⟩

theorem sources_total (read : ∀ plot ∈ plots, ∃ found, (plot.summarise dataDir t).result = .ok found) :
    ∃ given, sources t dataDir plots = .ok given := by
  refine mapM_total ?_
  intro plot member
  obtain ⟨found, charted⟩ := read plot member
  exact ⟨found, mapError_ok.mpr charted⟩

theorem print_error (failed : (print t config json).logged.result = .error failure) :
    ∃ before plot later inner, config.plots = before ++ plot :: later ∧
      (∀ early ∈ before, ∃ found, (early.summarise config.settings.dataDir t).result = .ok found) ∧
      (plot.summarise config.settings.dataDir t).result = .error inner ∧
      failure = inner.within (.summarising plot.dataset) := by
  rw [print_result] at failed
  rcases first_failure (fun plot => (summary t config.settings.dataDir plot).result) config.plots with all | stopped
  · obtain ⟨given, ran⟩ := mapM_total all
    rw [sources, ran] at failed
    cases failed
  · obtain ⟨before, plot, later, cause, split, early, stop⟩ := stopped
    rw [sources, split, mapM_stop early stop] at failed
    cases failed
    obtain ⟨inner, unread, rfl⟩ := Logged.mapError_error.mp stop
    refine ⟨before, plot, later, inner, split, ?_, unread, rfl⟩
    intro other member
    obtain ⟨found, read⟩ := early other member
    exact ⟨found, mapError_ok.mp read⟩

theorem print_readable (ran : (print t config json).logged.result = .ok ()) :
    config.plots = [] ∨ ∃ names, t.list config.settings.dataDir = .ok names := by
  obtain ⟨given, found⟩ := print_ok.mp ran
  cases same : config.plots with
  | nil => exact .inl rfl
  | cons plot plots =>
    rw [same] at found
    obtain ⟨⟨path, charts⟩, charted⟩ := (sources_ok found).2 plot List.mem_cons_self
    exact .inr (Plot.summarise_listed charted)

-- What was drawn can be printed as well, if the data is within reach before anything is made.
theorem drawn_sources (ran : Plot.drawAll plots dataDir plotDir t = (after, ⟨events, .ok written⟩))
    (readable : plots = [] ∨ ∃ names, t.list dataDir = .ok names) :
    ∃ given writes, sources t dataDir plots = .ok given ∧
      Plot.Run dataDir plotDir t plots (given.flatMap (·.2)) events writes after ∧
      written = (given.flatMap (·.2)).map (·.path plotDir) := by
  by_cases idle : plots = []
  · subst idle
    cases ran
    exact ⟨[], [], rfl, .idle, rfl⟩
  obtain ⟨names, listed⟩ := readable.resolve_left idle
  obtain ⟨made, base, making, leads, clear, rfl, _⟩ := Plot.drawn_clear idle ran
  obtain ⟨_, writes, run⟩ := Plot.drawn_settled idle making leads ran
  have grown := Tree.makeDirectories_grown t plotDir
  rw [making] at grown
  have read : ∀ plot ∈ plots, ∃ path, (plot.summarise dataDir t).result = .ok (path, plot.chartsIn dataDir made) := by
    intro plot member
    obtain ⟨path, charted⟩ := (clear plot member).read
    exact ⟨path, Plot.summarise_grown (Tree.makeDirectories_keeps making) grown listed charted⟩
  obtain ⟨given, found⟩ := sources_total fun plot member => ⟨_, (read plot member).choose_spec⟩
  have same : given.flatMap (·.2) = plots.flatMap (Plot.chartsIn dataDir made) := by
    rw [(sources_ok found).1]
    exact List.flatMap_congr fun plot member => Plot.chartsIn_ok (read plot member).choose_spec
  refine ⟨given, writes, found, ?_, ?_⟩
  · rw [same]
    exact .drew idle making run
  · rw [same, Plot.reported_paths clear]

-- The run stops at a chart of the given plots.
def StopsAtChart (t : Tree) (config : Config) (early : List Plot) : Prop :=
  ∃ after events failure,
    Plot.drawAll config.plots config.settings.dataDir config.settings.plotDir t = (after, ⟨events, .error failure⟩) ∧
    ∃ chart ∈ early.flatMap (Plot.chartsIn config.settings.dataDir t), Plot.Refused config.settings.plotDir chart failure

-- The run draws all of the given plots, as it would without the others, and then stops.
def StopsAfter (t : Tree) (config : Config) (early : List Plot) (failure : Failure) : Prop :=
  ∃ after reported written events,
    Plot.drawAll early config.settings.dataDir config.settings.plotDir t = (after, ⟨reported, .ok written⟩) ∧
    Plot.drawAll config.plots config.settings.dataDir config.settings.plotDir t = (after, ⟨events, .error failure⟩)

section There

variable {place : Place} {before later : List Plot} (there : t.find config.settings.plotDir = .ok (place, .directory))

include there

theorem stops_at_chart {drawn : List BarChart} (split : config.plots = before ++ later)
    (read : ∀ plot ∈ before, ∃ found, (plot.summarise config.settings.dataDir t).result = .ok found)
    (stops : Plot.Stops config.settings.dataDir config.settings.plotDir t before drawn failure) :
    StopsAtChart t config before := by
  have making := Tree.makeDirectories_there there
  obtain ⟨base, leads⟩ := Tree.makeDirectories_leads making
  have asked : before ++ later ≠ [] := by
    cases stops <;> simp
  obtain ⟨after, stopped, _⟩ := Plot.drawPlots_stop leads .start (.inl rfl) (stops.append later)
  rw [← Plot.drawAll_made asked making, ← split] at stopped
  obtain ⟨events, ran⟩ := Work.outcome_exact.mp stopped
  exact ⟨after, events, failure, ran, stops.at_chart read⟩

theorem stops_after {plot : Plot} (split : config.plots = before ++ plot :: later)
    (clear : ∀ early ∈ before, early.Clear config.settings.dataDir config.settings.plotDir t)
    (unread : (plot.summarise config.settings.dataDir t).result = .error failure) :
    StopsAfter t config before (failure.within (.plotting plot.dataset)) := by
  have making := Tree.makeDirectories_there there
  obtain ⟨base, leads⟩ := Tree.makeDirectories_leads making
  obtain ⟨next, painted, ready, onward⟩ := Plot.drawPlots_before leads .start (.inl rfl) clear
  have stopped := onward (plot :: later)
  rw [Plot.drawPlots_unread painted ready unread, ← Plot.drawAll_made (by simp) making, ← split] at stopped
  obtain ⟨events, ran⟩ := Work.outcome_exact.mp stopped
  have finished := onward []
  rw [List.append_nil] at finished
  have early : ∃ written, (Plot.drawAll before config.settings.dataDir config.settings.plotDir).outcome t =
      (next, .ok written) := by
    by_cases idle : before = []
    · subst idle
      cases congrArg Prod.fst finished
      exact ⟨[], rfl⟩
    · rw [Plot.drawAll_made idle making, finished]
      exact ⟨_, rfl⟩
  obtain ⟨written, drawn⟩ := early
  obtain ⟨reported, drew⟩ := Work.outcome_exact.mp drawn
  exact ⟨next, reported, written, events, drew, ran⟩

theorem printed_drawn (ran : (print t config json).logged.result = .ok ()) :
    (∃ after events written, Plot.drawAll config.plots config.settings.dataDir config.settings.plotDir t =
      (after, ⟨events, .ok written⟩)) ∨ StopsAtChart t config config.plots := by
  by_cases idle : config.plots = []
  · rw [idle]
    exact .inl ⟨t, _, _, rfl⟩
  obtain ⟨given, found⟩ := print_ok.mp ran
  rcases Plot.clear_or_stops config.settings.dataDir config.settings.plotDir t config.plots with
    clear | ⟨drawn, failure, stops⟩
  · have making := Tree.makeDirectories_there there
    obtain ⟨base, leads⟩ := Tree.makeDirectories_leads making
    obtain ⟨after, events, done, _⟩ := Plot.clear_drawn idle making leads clear
    exact .inl ⟨after, events, _, done⟩
  · exact .inr (stops_at_chart there (List.append_nil _).symm (sources_ok found).2 stops)

theorem unprinted_stops {plot : Plot} (split : config.plots = before ++ plot :: later)
    (early : ∀ plot ∈ before, ∃ found, (plot.summarise config.settings.dataDir t).result = .ok found)
    (unread : (plot.summarise config.settings.dataDir t).result = .error failure) :
    StopsAfter t config before (failure.within (.plotting plot.dataset)) ∨ StopsAtChart t config before := by
  rcases Plot.clear_or_stops config.settings.dataDir config.settings.plotDir t before with
    clear | ⟨drawn, cause, stops⟩
  · exact .inl (stops_after there split clear unread)
  · exact .inr (stops_at_chart there split early stops)

end There

-- Printing and drawing agree on the charts and on the first plot that cannot be read. They differ by
-- what only drawing does: it makes a directory, and a chart may be refused.
theorem printed_as_drawn (t : Tree) (config : Config) (json : Bool) :
    (∀ after events written,
      Plot.drawAll config.plots config.settings.dataDir config.settings.plotDir t = (after, ⟨events, .ok written⟩) →
      ((print t config json).logged.result = .ok () ↔
        config.plots = [] ∨ ∃ names, t.list config.settings.dataDir = .ok names) ∧
      ((print t config json).logged.result = .ok () → ∃ given writes,
        sources t config.settings.dataDir config.plots = .ok given ∧ (print t config json).text = textOf json given ∧
        Plot.Run config.settings.dataDir config.settings.plotDir t config.plots (given.flatMap (·.2)) events writes after ∧
        written = (given.flatMap (·.2)).map (·.path config.settings.plotDir))) ∧
    ∀ place, t.find config.settings.plotDir = .ok (place, .directory) →
      ((print t config json).logged.result = .ok () →
        (∃ after events written, Plot.drawAll config.plots config.settings.dataDir config.settings.plotDir t =
          (after, ⟨events, .ok written⟩)) ∨ StopsAtChart t config config.plots) ∧
      ∀ failure, (print t config json).logged.result = .error failure →
        ∃ before plot later inner fault, config.plots = before ++ plot :: later ∧
          (∀ early ∈ before, ∃ found, (early.summarise config.settings.dataDir t).result = .ok found) ∧
          (plot.summarise config.settings.dataDir t).result = .error inner ∧ inner.fault? = some fault ∧
          failure = inner.within (.summarising plot.dataset) ∧
          (StopsAfter t config before (inner.within (.plotting plot.dataset)) ∨ StopsAtChart t config before) := by
  constructor
  · intro after events written ran
    have printed : (print t config json).logged.result = .ok () ↔
        config.plots = [] ∨ ∃ names, t.list config.settings.dataDir = .ok names := by
      refine ⟨print_readable, ?_⟩
      intro readable
      obtain ⟨given, _, found, _⟩ := drawn_sources ran readable
      exact print_ok.mpr ⟨given, found⟩
    refine ⟨printed, ?_⟩
    intro succeeded
    obtain ⟨given, writes, found, run, paths⟩ := drawn_sources ran (printed.mp succeeded)
    exact ⟨given, writes, found, print_text found, run, paths⟩
  · intro place there
    refine ⟨printed_drawn there, ?_⟩
    intro failure failed
    obtain ⟨before, plot, later, inner, split, early, unread, rfl⟩ := print_error failed
    obtain ⟨fault, cause⟩ := Plot.summarise_faulty plot config.settings.dataDir t inner unread
    exact ⟨before, plot, later, inner, fault, split, early, unread, cause, rfl,
      unprinted_stops there split early unread⟩

-- Two charts that are printed and drawn, and a plot without data after one that is drawn.
theorem printed_as_drawn_pair :
    (∃ after events given writes,
      Plot.drawAll Plot.pairConfig.plots "data" "data" Plot.pairTree =
        (after, ⟨events, .ok ["data/size.svg", "data/build.svg"]⟩) ∧
      (print Plot.pairTree Plot.pairConfig true).logged.result = .ok () ∧
      sources Plot.pairTree "data" Plot.pairConfig.plots = .ok given ∧
      (print Plot.pairTree Plot.pairConfig true).text = textOf true given ∧
      Plot.Run "data" "data" Plot.pairTree Plot.pairConfig.plots (given.flatMap (·.2)) events writes after) ∧
    ∃ (failure inner : Failure) (plot : Plot) (before later : List Plot),
      (print (Plot.sizeTree "name,bytes\njvm,1\n") Plot.pairConfig false).logged.result = .error failure ∧
      Plot.pairConfig.plots = before ++ plot :: later ∧ failure = inner.within (.summarising plot.dataset) ∧
      (StopsAfter (Plot.sizeTree "name,bytes\njvm,1\n") Plot.pairConfig before (inner.within (.plotting plot.dataset)) ∨
        StopsAtChart (Plot.sizeTree "name,bytes\njvm,1\n") Plot.pairConfig before) := by
  constructor
  · obtain ⟨after, events, ran⟩ := Plot.pair_drawn
    have readable : (Plot.pairTree.list "data").toOption.isSome = true := by decide +kernel
    obtain ⟨names, listed⟩ := Option.isSome_iff_exists.mp readable
    obtain ⟨printed, shown⟩ := (printed_as_drawn Plot.pairTree Plot.pairConfig true).1 after events _ ran
    have succeeded := printed.mpr (.inr ⟨names, toOption_ok.mp listed⟩)
    obtain ⟨given, writes, found, text, run, _⟩ := shown succeeded
    exact ⟨after, events, given, writes, ran, succeeded, found, text, run⟩
  · have unread : (print (Plot.sizeTree "name,bytes\njvm,1\n") Plot.pairConfig false).logged.result.toOption = none := by
      decide +kernel
    have readable : ((Plot.sizeTree "name,bytes\njvm,1\n").list "data").toOption.isSome = true := by decide +kernel
    obtain ⟨names, listed⟩ := Option.isSome_iff_exists.mp readable
    obtain ⟨place, resolved, entered⟩ := Tree.list_found (toOption_ok.mp listed)
    obtain ⟨failure, failed⟩ := toOption_none.mp unread
    obtain ⟨before, plot, later, inner, _, split, _, _, _, same, stops⟩ :=
      ((printed_as_drawn _ Plot.pairConfig false).2 place (Tree.find_ok.mpr ⟨resolved, entered⟩)).2 failure failed
    exact ⟨failure, inner, plot, before, later, failed, split, same, stops⟩

-- The data lies behind the directory that only drawing makes.
theorem drawn_unprinted : ∃ after events,
    Plot.drawAll [.binarySize 1.6] "plots/../data" "plots" (Plot.sizeTree "name,bytes\njvm,1\n") =
      (after, ⟨events, .ok ["plots/size.svg"]⟩) ∧
    ∀ json, ∃ failure, (print (Plot.sizeTree "name,bytes\njvm,1\n")
      ⟨⟨"plots/../data", "plots"⟩, [.binarySize 1.6]⟩ json).logged.result = .error failure := by
  have drawn : (Plot.drawAll [.binarySize 1.6] "plots/../data" "plots"
      (Plot.sizeTree "name,bytes\njvm,1\n")).2.result.toOption = some ["plots/size.svg"] := by decide +kernel
  refine ⟨_, _, Work.ran_ok drawn, ?_⟩
  intro json
  have unread : (print (Plot.sizeTree "name,bytes\njvm,1\n")
      ⟨⟨"plots/../data", "plots"⟩, [.binarySize 1.6]⟩ json).logged.result.toOption = none := by
    cases json <;> decide +kernel
  exact toOption_none.mp unread

end Report
end BenchCharts
