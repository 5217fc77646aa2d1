import BenchCharts.Proofs.Dataset.Stable
import BenchCharts.Proofs.Plot.Written

namespace BenchCharts
open Files Text

namespace BarChart

def place (base : Place) (chart : BarChart) : Place := base ++ [Utf8.encode (chart.name ++ ".svg")]

def picture (chart : BarChart) : Drawing := Layout.draw chart (chart.colours.toOption.getD [])

-- What becomes of the chart when it is the only one.
def trial (plotDir : String) (made : Tree) (chart : BarChart) : Except Failure Unit :=
  (chart.render (chart.path plotDir) made).2.result

end BarChart

namespace Plot

-- The last chart with bars that goes to a place.
def lastAt? (base place : Place) (charts : List BarChart) : Option BarChart :=
  (charts.filter (!·.bars.isEmpty)).reverse.find? (·.place base == place)

-- The tree with the charts drawn one after another; each of them could be drawn.
structure Painted (base : Place) (made : Tree) (charts : List BarChart) (t : Tree) : Prop where
  stays : t.here = made.here
  shown : ∀ place, t.at? place =
    ((lastAt? base place charts).map fun chart => .file (.drawing chart.picture)).or (made.at? place)
  named : ∀ chart ∈ charts, Plain (chart.name ++ ".svg")
  coloured : ∀ chart ∈ charts, ∃ colours, chart.colours = .ok colours
  free : ∀ chart ∈ charts, chart.bars ≠ [] → made.at? (chart.place base) ≠ some .directory

variable {t made after : Tree} {base place : Place} {chart last : BarChart} {charts more : List BarChart}
  {dataDir plotDir path : String} {colours : List Colour}

theorem lastAt_append (xs ys : List BarChart) :
    lastAt? base place (xs ++ ys) = (lastAt? base place ys).or (lastAt? base place xs) := by
  simp [lastAt?, List.find?_append]

theorem lastAt_bars (bars : chart.bars ≠ []) :
    lastAt? base place [chart] = if chart.place base = place then some chart else none := by
  by_cases here : chart.place base = place <;> simp [lastAt?, bars, here]

theorem lastAt_empty (empty : chart.bars = []) : lastAt? base place [chart] = none := by
  simp [lastAt?, empty]

theorem lastAt_some (found : lastAt? base place charts = some chart) :
    chart ∈ charts ∧ chart.bars ≠ [] ∧ chart.place base = place := by
  obtain ⟨listed, bars⟩ := List.mem_filter.mp (List.mem_reverse.mp (List.mem_of_find?_eq_some found))
  exact ⟨listed, by simpa using bars, by simpa using List.find?_some found⟩

theorem lastAt_none : lastAt? base place charts = none ↔
    ∀ chart ∈ charts, chart.bars ≠ [] → chart.place base ≠ place := by
  simp [lastAt?]

theorem place_inside (base : Place) (chart : BarChart) : chart.place base ≠ [] := by
  simp [BarChart.place]

theorem picture_coloured (coloured : chart.colours = .ok colours) : chart.picture = Layout.draw chart colours := by
  rw [BarChart.picture, coloured]
  rfl

namespace Painted

theorem start : Painted base made [] made := ⟨rfl, fun _ => rfl, nofun, nofun, nofun⟩

variable (painted : Painted base made charts t)

include painted

theorem elsewhere (away : ∀ chart ∈ charts, chart.bars ≠ [] → chart.place base ≠ place) :
    t.at? place = made.at? place := by
  rw [painted.shown, lastAt_none.mpr away]
  rfl

theorem here (found : lastAt? base place charts = some chart) :
    t.at? place = some (.file (.drawing chart.picture)) := by
  rw [painted.shown, found]
  rfl

theorem directory : t.at? place = some .directory ↔ made.at? place = some .directory := by
  cases found : lastAt? base place charts with
  | none => rw [painted.shown, found]; rfl
  | some chart =>
    obtain ⟨listed, bars, rfl⟩ := lastAt_some found
    rw [painted.here found]
    exact iff_of_false nofun (painted.free chart listed bars)

theorem keeps : Tree.Keeps made t := ⟨painted.stays, fun _ => painted.directory.mpr⟩

theorem leads (leads : made.Leads plotDir base) : t.Leads plotDir base := leads.kept painted.keeps

theorem skip (plain : Plain (chart.name ++ ".svg")) (empty : chart.bars = []) :
    Painted base made (charts ++ [chart]) t where
  stays := painted.stays
  shown := by
    intro place
    rw [lastAt_append, lastAt_empty empty]
    exact painted.shown place
  named := List.forall_mem_append.mpr ⟨painted.named, List.forall_mem_singleton.mpr plain⟩
  coloured := by
    refine List.forall_mem_append.mpr ⟨painted.coloured, List.forall_mem_singleton.mpr ⟨[], ?_⟩⟩
    rw [BarChart.colours, empty]
    rfl
  free := List.forall_mem_append.mpr ⟨painted.free, List.forall_mem_singleton.mpr (absurd empty)⟩

theorem draw (plain : Plain (chart.name ++ ".svg")) (bars : chart.bars ≠ []) (coloured : chart.colours = .ok colours)
    (free : made.at? (chart.place base) ≠ some .directory) :
    Painted base made (charts ++ [chart])
      (t.put (chart.place base) (.file (.drawing (Layout.draw chart colours)))) where
  stays := Tree.put_here.trans painted.stays
  shown := by
    intro place
    rw [lastAt_append, lastAt_bars bars]
    by_cases here : chart.place base = place
    · subst here
      rw [Tree.put_same (mt painted.directory.mp free), if_pos rfl, ← picture_coloured coloured]
      rfl
    · rw [Tree.put_other (Ne.symm here), if_neg here]
      exact painted.shown place
  named := List.forall_mem_append.mpr ⟨painted.named, List.forall_mem_singleton.mpr plain⟩
  coloured := List.forall_mem_append.mpr ⟨painted.coloured, List.forall_mem_singleton.mpr ⟨colours, coloured⟩⟩
  free := List.forall_mem_append.mpr ⟨painted.free, List.forall_mem_singleton.mpr fun _ => free⟩

-- A drawing is never taken for an output.
theorem untouched (name : String) : Dataset.Untouched name made t := by
  refine ⟨painted.keeps, ?_⟩
  intro above file output
  refine painted.elsewhere ?_
  intro chart _ _ same
  have last : Utf8.encode (chart.name ++ ".svg") = Utf8.encode file := by
    simpa using (List.append_inj' same rfl).2
  rw [← Tree.encode_injective last] at output
  exact Dataset.drawing_no_output name chart.name output

end Painted

theorem render_uncoloured {fault : Fault} (uncoloured : chart.colours = .error fault) :
    (chart.render path).outcome t = (t, .error (.ofFault fault)) := by
  refine Work.outcome_stop ?_
  rw [Work.outcome_look, uncoloured]
  rfl

theorem render_coloured (coloured : chart.colours = .ok colours) (bars : chart.bars ≠ []) :
    (chart.render path).outcome t =
      match t.write path (.drawing (Layout.draw chart colours)) with
      | .ok next => (next, .ok ())
      | .error obstacle => (t, .error (.of (.drawing obstacle))) := by
  have looked : (Work.look fun _ => .of (chart.colours.mapError .ofFault)).outcome t = (t, .ok colours) := by
    rw [Work.outcome_look, coloured]
    rfl
  unfold BarChart.render BarChart.renderBy
  rw [Work.outcome_go looked, if_neg (by simpa using bars), Work.outcome_noted]
  exact Work.outcome_change

theorem render_empty (empty : chart.bars = []) : (chart.render path).outcome t = (t, .ok ()) := by
  have looked : (Work.look fun _ => .of (chart.colours.mapError .ofFault)).outcome t = (t, .ok []) := by
    rw [Work.outcome_look, BarChart.colours, empty]
    rfl
  unfold BarChart.render BarChart.renderBy
  rw [Work.outcome_go looked, if_pos (by simpa using empty)]
  rfl

theorem trial_uncoloured {fault : Fault} (uncoloured : chart.colours = .error fault) :
    chart.trial plotDir made = .error (.ofFault fault) := by
  show ((chart.render (chart.path plotDir)).outcome made).2 = _
  rw [render_uncoloured uncoloured]

theorem trial_free (leads : made.Leads plotDir base) (plain : Plain (chart.name ++ ".svg"))
    (coloured : chart.colours = .ok colours) (free : made.at? (chart.place base) ≠ some .directory) :
    chart.trial plotDir made = .ok () := by
  show ((chart.render (chart.path plotDir)).outcome made).2 = .ok ()
  by_cases empty : chart.bars = []
  · rw [render_empty empty]
  · rw [render_coloured coloured empty, BarChart.path, Tree.write_free leads plain free]

-- A chart can be drawn among others as it can alone.
theorem render_painted (leads : made.Leads plotDir base) (plain : Plain (chart.name ++ ".svg"))
    (painted : Painted base made charts t) :
    (∃ failure, chart.trial plotDir made = .error failure ∧
      (chart.render (chart.path plotDir)).outcome t = (t, .error failure)) ∨
    (chart.trial plotDir made = .ok () ∧ ∃ next, (chart.render (chart.path plotDir)).outcome t = (next, .ok ()) ∧
      Painted base made (charts ++ [chart]) next) := by
  have alone : chart.trial plotDir made = ((chart.render (chart.path plotDir)).outcome made).2 := rfl
  rw [alone]
  by_cases empty : chart.bars = []
  · rw [render_empty empty, render_empty empty]
    exact .inr ⟨rfl, t, rfl, painted.skip plain empty⟩
  cases coloured : chart.colours with
  | error fault =>
    rw [render_uncoloured coloured, render_uncoloured coloured]
    exact .inl ⟨_, rfl, rfl⟩
  | ok colours =>
    rw [render_coloured coloured empty, render_coloured coloured empty]
    by_cases blocked : made.at? (chart.place base) = some .directory
    · rw [BarChart.path, Tree.write_blocked leads plain blocked,
        Tree.write_blocked (painted.leads leads) plain (painted.directory.mpr blocked)]
      exact .inl ⟨_, rfl, rfl⟩
    · rw [BarChart.path, Tree.write_free leads plain blocked,
        Tree.write_free (painted.leads leads) plain fun entered => blocked (painted.directory.mp entered)]
      exact .inr ⟨rfl, _, rfl, painted.draw plain empty coloured blocked⟩

section Charts

variable {before later : List BarChart} {failure : Failure} (leads : made.Leads plotDir base)
  (painted : Painted base made charts t)

include leads painted

theorem drawCharts_first (plain : Plain (chart.name ++ ".svg")) (drawable : chart.trial plotDir made = .ok ()) :
    ∃ next, Painted base made (charts ++ [chart]) next ∧ ∀ more, (drawCharts plotDir (chart :: more)).outcome t =
      (((drawCharts plotDir more).outcome next).1,
        ((drawCharts plotDir more).outcome next).2.map (chart.path plotDir :: ·)) := by
  rcases render_painted leads plain painted with ⟨failure, refused, _⟩ | ⟨_, next, rendered, drawn⟩
  · rw [drawable] at refused
    cases refused
  · refine ⟨next, drawn, ?_⟩
    intro more
    have first : (Work.within (.rendering (chart.path plotDir)) (chart.render (chart.path plotDir))).outcome t =
        (next, .ok ()) := by
      rw [Work.outcome_within, rendered]
      rfl
    rw [drawCharts, Work.outcome_go first, Work.outcome_noted, Work.outcome_mapped]

theorem drawCharts_refused (plain : Plain (chart.name ++ ".svg")) (refused : chart.trial plotDir made = .error failure) :
    (drawCharts plotDir (chart :: more)).outcome t =
      (t, .error (failure.within (.rendering (chart.path plotDir)))) := by
  rcases render_painted leads plain painted with ⟨failure', refused', rendered⟩ | ⟨drawable, _⟩
  · cases refused.symm.trans refused'
    unfold drawCharts
    refine Work.outcome_stop ?_
    rw [Work.outcome_within, rendered]
    rfl
  · rw [drawable] at refused
    cases refused

section Before

variable (drawable : ∀ other ∈ before, other.trial plotDir made = .ok ())

include drawable

theorem drawCharts_before (plain : ∀ other ∈ before, Plain (other.name ++ ".svg")) :
    ∃ next, Painted base made (charts ++ before) next ∧ ∀ more, (drawCharts plotDir (before ++ more)).outcome t =
      (((drawCharts plotDir more).outcome next).1,
        ((drawCharts plotDir more).outcome next).2.map (before.map (·.path plotDir) ++ ·)) := by
  induction before generalizing t charts with
  | nil =>
    rw [List.append_nil]
    refine ⟨t, painted, ?_⟩
    intro more
    show (drawCharts plotDir more).outcome t = _
    rcases (drawCharts plotDir more).outcome t with ⟨after, _ | _⟩ <;> rfl
  | cons first before ih =>
    obtain ⟨plainHere, plainLater⟩ := List.forall_mem_cons.mp plain
    obtain ⟨drawableHere, drawableLater⟩ := List.forall_mem_cons.mp drawable
    obtain ⟨middle, drawn, onward⟩ := drawCharts_first leads painted plainHere drawableHere
    obtain ⟨next, done, rest⟩ := ih drawn drawableLater plainLater
    rw [List.append_assoc] at done
    refine ⟨next, done, ?_⟩
    intro more
    rw [List.cons_append, onward, rest]
    rcases (drawCharts plotDir more).outcome next with ⟨after, _ | _⟩ <;> rfl

theorem drawCharts_all (plain : ∀ other ∈ before, Plain (other.name ++ ".svg")) :
    ∃ after, (drawCharts plotDir before).outcome t = (after, .ok (before.map (·.path plotDir))) ∧
      Painted base made (charts ++ before) after := by
  obtain ⟨after, done, onward⟩ := drawCharts_before leads painted drawable plain
  refine ⟨after, ?_, done⟩
  have ended := onward []
  rw [List.append_nil] at ended
  rw [ended]
  show (after, Except.ok (before.map (·.path plotDir) ++ [])) = _
  rw [List.append_nil]

-- The charts before the first that cannot be drawn are drawn, and no other.
theorem drawCharts_stop (plain : ∀ other ∈ before ++ chart :: later, Plain (other.name ++ ".svg"))
    (refused : chart.trial plotDir made = .error failure) :
    ∃ after, (drawCharts plotDir (before ++ chart :: later)).outcome t =
      (after, .error (failure.within (.rendering (chart.path plotDir)))) ∧
      Painted base made (charts ++ before) after := by
  obtain ⟨early, late⟩ := List.forall_mem_append.mp plain
  obtain ⟨after, done, onward⟩ := drawCharts_before leads painted drawable early
  refine ⟨after, ?_, done⟩
  rw [onward, drawCharts_refused leads done (late chart List.mem_cons_self) refused]
  rfl

end Before
end Charts

-- The charts of a plot, as far as there are any.
def chartsIn (dataDir : String) (made : Tree) (plot : Plot) : List BarChart :=
  match (plot.summarise dataDir made).result with
  | .ok (_, charts) => charts
  | .error _ => []

theorem chartsIn_ok {plot : Plot} (charted : (plot.summarise dataDir made).result = .ok (path, charts)) :
    plot.chartsIn dataDir made = charts := by
  rw [chartsIn, charted]

structure Clear (dataDir plotDir : String) (made : Tree) (plot : Plot) : Prop where
  read : ∃ path, (plot.summarise dataDir made).result = .ok (path, plot.chartsIn dataDir made)
  drawable : ∀ chart ∈ plot.chartsIn dataDir made, chart.trial plotDir made = .ok ()

theorem clear_exact {plot : Plot} : plot.Clear dataDir plotDir made ↔
    (plot.summarise dataDir made).result.toOption.isSome = true ∧
      ∀ chart ∈ plot.chartsIn dataDir made, (chart.trial plotDir made).toOption.isSome = true := by
  constructor
  · intro ⟨⟨path, charted⟩, drawable⟩
    refine ⟨by rw [charted]; rfl, ?_⟩
    intro chart member
    rw [drawable chart member]
    rfl
  · intro ⟨read, drawable⟩
    obtain ⟨⟨path, charts⟩, charted⟩ := Option.isSome_iff_exists.mp read
    have given := toOption_ok.mp charted
    refine ⟨⟨path, by rw [chartsIn_ok given]; exact given⟩, ?_⟩
    intro chart member
    obtain ⟨done, drawn⟩ := Option.isSome_iff_exists.mp (drawable chart member)
    exact toOption_ok.mp drawn

instance (plot : Plot) : Decidable (plot.Clear dataDir plotDir made) := decidable_of_iff _ clear_exact.symm

section Plots

variable {plot : Plot} {plots : List Plot} (leads : made.Leads plotDir base) (painted : Painted base made charts t)
  (ready : t = made ∨ ∃ names, made.list dataDir = .ok names)

theorem summarise_named (charted : (plot.summarise dataDir made).result = .ok (path, charts)) :
    charts.map (·.name) = plot.chartNames ∧ ∀ chart ∈ charts, Plain (chart.name ++ ".svg") := by
  obtain ⟨table, _, _, drawn⟩ := summarise_ok charted
  exact ⟨(charts_ok drawn).1, charts_plain drawn⟩

include painted ready in
theorem summarise_painted (plot : Plot) : plot.summarise dataDir t = plot.summarise dataDir made := by
  rcases ready with rfl | ⟨names, given⟩
  · rfl
  · exact summarise_untouched (painted.untouched plot.dataset) given

include painted ready in
theorem drawPlots_charted (plots : List Plot) (charted : (plot.summarise dataDir made).result = .ok (path, more)) :
    (drawPlots dataDir plotDir (plot :: plots)).outcome t =
      (drawCharts plotDir more >>= fun written =>
        drawPlots dataDir plotDir plots >>= fun others => pure (written ++ others)).outcome t := by
  have looked : (Work.within (.plotting plot.dataset) (Work.look (plot.summarise dataDir))).outcome t =
      (t, .ok (path, more)) := by
    rw [Work.outcome_within, Work.outcome_look, summarise_painted painted ready, charted]
    rfl
  rw [drawPlots, Work.outcome_go looked, Work.outcome_noted]

include leads painted ready

theorem drawPlots_first (clear : plot.Clear dataDir plotDir made) :
    ∃ next, Painted base made (charts ++ plot.chartsIn dataDir made) next ∧
      ∀ plots, (drawPlots dataDir plotDir (plot :: plots)).outcome t =
        (((drawPlots dataDir plotDir plots).outcome next).1, ((drawPlots dataDir plotDir plots).outcome next).2.map
          ((plot.chartsIn dataDir made).map (·.path plotDir) ++ ·)) := by
  obtain ⟨path, charted⟩ := clear.read
  obtain ⟨next, drawn, done⟩ := drawCharts_all leads painted clear.drawable (summarise_named charted).2
  refine ⟨next, done, ?_⟩
  intro plots
  rw [drawPlots_charted painted ready plots charted, Work.outcome_go drawn, Work.outcome_mapped]

theorem drawPlots_all (clear : ∀ plot ∈ plots, plot.Clear dataDir plotDir made) :
    ∃ after, (drawPlots dataDir plotDir plots).outcome t =
        (after, .ok ((plots.flatMap (chartsIn dataDir made)).map (·.path plotDir))) ∧
      Painted base made (charts ++ plots.flatMap (chartsIn dataDir made)) after := by
  induction plots generalizing t charts with
  | nil =>
    rw [List.flatMap_nil, List.append_nil]
    exact ⟨t, rfl, painted⟩
  | cons plot plots ih =>
    obtain ⟨here, later⟩ := List.forall_mem_cons.mp clear
    obtain ⟨next, drawn, onward⟩ := drawPlots_first leads painted ready here
    obtain ⟨path, charted⟩ := here.read
    obtain ⟨after, rest, done⟩ := ih drawn (.inr (summarise_listed charted)) later
    rw [List.append_assoc] at done
    refine ⟨after, ?_, done⟩
    rw [onward, rest, List.flatMap_cons, List.map_append]
    rfl

end Plots

variable {plots : List Plot}

theorem drawAll_made (asked : plots ≠ []) (making : t.makeDirectories plotDir = .ok made) :
    (drawAll plots dataDir plotDir).outcome t = (drawPlots dataDir plotDir plots).outcome made := by
  have first : (Work.within (.creating plotDir) (Work.advance .obstacle (·.makeDirectories plotDir))).outcome t =
      (made, .ok ()) := by
    rw [Work.outcome_within, Work.outcome_advance, making]
    rfl
  unfold drawAll
  rw [if_neg (by simpa using asked), Work.outcome_go first]

theorem drawAll_unmade {halt : Tree.Halt} (asked : plots ≠ []) (making : t.makeDirectories plotDir = .error halt) :
    (drawAll plots dataDir plotDir).outcome t =
      (halt.left, .error ((Failure.of (.obstacle halt.obstacle)).within (.creating plotDir))) := by
  unfold drawAll
  rw [if_neg (by simpa using asked)]
  refine Work.outcome_stop ?_
  rw [Work.outcome_within, Work.outcome_advance, making]
  rfl

end Plot
end BenchCharts
