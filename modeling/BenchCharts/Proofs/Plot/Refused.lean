import BenchCharts.Proofs.Plot.Rerun

namespace BenchCharts
open Files

namespace Logged

variable {α β : Type} {x : Logged Failure α} {f : α → Logged Failure β}

def Faulty (x : Logged Failure α) : Prop := ∀ failure, x.result = .error failure → ∃ fault, failure.fault? = some fault

theorem Faulty.bind (first : x.Faulty) (rest : ∀ a, (f a).Faulty) : (x >>= f).Faulty := by
  intro failure failed
  rw [result_bind] at failed
  cases given : x.result with
  | error early =>
    rw [given] at failed
    cases failed
    exact first _ given
  | ok a =>
    rw [given] at failed
    exact rest a failure failed

theorem Faulty.within (faulty : x.Faulty) (context : Context) : (x.mapError (·.within context)).Faulty := by
  intro failure failed
  obtain ⟨inner, given, rfl⟩ := mapError_error.mp failed
  exact faulty inner given

theorem faulty_fault {x : Logged Fault α} {g : Fault → Failure} (kind : ∀ fault, (g fault).fault? = some fault) :
    (x.mapError g).Faulty := by
  intro failure failed
  obtain ⟨fault, _, rfl⟩ := mapError_error.mp failed
  exact ⟨fault, kind fault⟩

theorem faulty_of {x : Except Fault α} {g : Fault → Failure} (kind : ∀ fault, (g fault).fault? = some fault) :
    (of (x.mapError g)).Faulty := faulty_fault (x := of x) kind

theorem faulty_note (event : Event) : (note event : Logged Failure Unit).Faulty := nofun

theorem faulty_pure (a : α) : (pure a : Logged Failure α).Faulty := nofun

end Logged

namespace Plot
open Logged

variable {t made : Tree} {base : Place} {plot : Plot} {plots before : List Plot} {chart : BarChart}
  {charts drawn : List BarChart} {dataDir plotDir path : String} {failure inner : Failure}

theorem workloadCharts_faulty (summary : Summary) (workloads : List Workload) :
    (workloadCharts summary workloads).Faulty := by
  induction workloads with
  | nil => exact faulty_pure _
  | cons w rest ih =>
    exact (faulty_of fun _ => rfl).bind fun _ => (faulty_note _).bind fun _ => ih.bind fun _ => faulty_pure _

theorem chartsOf_faulty (plot : Plot) (summary : Summary) : (plot.chartsOf summary).Faulty := by
  cases plot with
  | buildTime warmup => exact (faulty_of fun _ => rfl).bind fun _ => (faulty_note _).bind fun _ => faulty_pure _
  | runtime warmup => exact workloadCharts_faulty summary workloads
  | binarySize headroom => exact (faulty_of fun _ => rfl).bind fun _ => (faulty_note _).bind fun _ => faulty_pure _

theorem summarise_faulty (plot : Plot) (dataDir : String) (t : Tree) : (plot.summarise dataDir t).Faulty := by
  refine (faulty_fault fun _ => rfl).bind fun path => (faulty_fault fun _ => rfl).bind fun table => ?_
  have charts : (plot.charts table).Faulty := (faulty_fault fun _ => rfl).bind (chartsOf_faulty plot)
  exact (charts.within _).bind fun _ => faulty_pure _

-- A chart that could not be drawn: one of its labels stands for no project, or its file could not be
-- written.
def Refused (plotDir : String) (chart : BarChart) (failure : Failure) : Prop :=
  (∃ label, failure = (Failure.ofFault (.unknownProject label)).within (.rendering (chart.path plotDir))) ∨
    ∃ obstacle, failure = (Failure.of (.drawing obstacle)).within (.rendering (chart.path plotDir))

theorem colours_unknown {fault : Fault} (uncoloured : chart.colours = .error fault) :
    ∃ label, fault = .unknownProject label := by
  rcases first_failure (fun bar : Bar => Project.colourOf bar.label) chart.bars with all | stopped
  · obtain ⟨colours, coloured⟩ := mapM_total all
    cases uncoloured.symm.trans coloured
  · obtain ⟨before, bar, later, cause, split, early, failed⟩ := stopped
    rw [BarChart.colours, split, mapM_stop early failed] at uncoloured
    cases uncoloured
    exact ⟨bar.label, Project.colourOf_error failed⟩

theorem trial_refused (failed : chart.trial plotDir made = .error failure) :
    Refused plotDir chart (failure.within (.rendering (chart.path plotDir))) := by
  have drawn : chart.trial plotDir made = ((chart.render (chart.path plotDir)).outcome made).2 := rfl
  rw [drawn] at failed
  by_cases empty : chart.bars = []
  · rw [render_empty empty] at failed
    cases failed
  cases coloured : chart.colours with
  | error fault =>
    obtain ⟨label, rfl⟩ := colours_unknown coloured
    rw [render_uncoloured coloured] at failed
    cases failed
    exact .inl ⟨label, rfl⟩
  | ok colours =>
    rw [render_coloured coloured empty] at failed
    split at failed
    · cases failed
    · rename_i obstacle _
      cases failed
      exact .inr ⟨obstacle, rfl⟩

-- Where all plots can be read, a run stops at a chart.
theorem Stops.at_chart (stops : Stops dataDir plotDir made plots drawn failure)
    (read : ∀ plot ∈ plots, ∃ found, (plot.summarise dataDir made).result = .ok found) :
    ∃ chart ∈ plots.flatMap (chartsIn dataDir made), Refused plotDir chart failure := by
  induction stops with
  | unread failed =>
    obtain ⟨found, given⟩ := read _ List.mem_cons_self
    cases failed.symm.trans given
  | refused charted _ failed =>
    refine ⟨_, ?_, trial_refused failed⟩
    rw [List.flatMap_cons, chartsIn_ok charted]
    simp
  | later _ _ ih =>
    obtain ⟨chart, member, refused⟩ := ih (List.forall_mem_cons.mp read).2
    exact ⟨chart, List.mem_append_right _ member, refused⟩

theorem Stops.append (stops : Stops dataDir plotDir made plots drawn failure) (more : List Plot) :
    Stops dataDir plotDir made (plots ++ more) drawn failure := by
  induction stops with
  | unread failed => exact .unread failed
  | refused charted drawable failed => exact .refused charted drawable failed
  | later clear _ ih => exact .later clear ih

theorem drawPlots_before (leads : made.Leads plotDir base) (painted : Painted base made charts t)
    (ready : t = made ∨ ∃ names, made.list dataDir = .ok names)
    (clear : ∀ plot ∈ before, plot.Clear dataDir plotDir made) :
    ∃ next, Painted base made (charts ++ before.flatMap (chartsIn dataDir made)) next ∧
      (next = made ∨ ∃ names, made.list dataDir = .ok names) ∧
      ∀ more, (drawPlots dataDir plotDir (before ++ more)).outcome t =
        (((drawPlots dataDir plotDir more).outcome next).1, ((drawPlots dataDir plotDir more).outcome next).2.map
          ((before.flatMap (chartsIn dataDir made)).map (·.path plotDir) ++ ·)) := by
  induction before generalizing t charts with
  | nil =>
    refine ⟨t, by simpa using painted, ready, ?_⟩
    intro more
    rw [List.nil_append]
    rcases (drawPlots dataDir plotDir more).outcome t with ⟨after, _ | _⟩ <;> rfl
  | cons plot before ih =>
    obtain ⟨here, others⟩ := List.forall_mem_cons.mp clear
    obtain ⟨middle, drawn, onward⟩ := drawPlots_first leads painted ready here
    obtain ⟨path, charted⟩ := here.read
    obtain ⟨next, done, ready', rest⟩ := ih drawn (.inr (summarise_listed charted)) others
    refine ⟨next, by simpa using done, ready', ?_⟩
    intro more
    rw [List.cons_append, onward, rest]
    rcases (drawPlots dataDir plotDir more).outcome next with ⟨after, _ | _⟩ <;> simp [Except.map]

end Plot
end BenchCharts
