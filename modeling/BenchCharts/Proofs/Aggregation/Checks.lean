import BenchCharts.Proofs.Aggregation.Ranking
import BenchCharts.Proofs.Table.Alignment

namespace BenchCharts

namespace Table

variable {t : Table} {name : String} {fault : Fault}

def Absent (t : Table) (name : String) : Prop := ∀ c ∈ t.columns, c.name ≠ name

-- The first column of a name holds texts.
def Textual (t : Table) (name : String) : Prop := ∃ before c later texts,
  t.columns = before ++ c :: later ∧ (∀ other ∈ before, other.name ≠ name) ∧ c.name = name ∧ c.cells = .text texts

theorem column_error : t.column name = .error fault ↔ t.Absent name ∧ fault = .missingColumn name := by
  unfold column
  cases found : t.columns.find? (·.name == name) with
  | none =>
    have absent : t.Absent name := by simpa [Absent] using found
    simp [absent, eq_comm]
  | some c =>
    have here : c.name = name := by simpa using List.find?_some found
    have present : ¬t.Absent name := fun absent => absent c (List.mem_of_find?_eq_some found) here
    simp [present]

theorem textual_iff : t.Textual name ↔ ∃ c texts, t.column name = .ok c ∧ c.cells = .text texts := by
  simp only [column_ok, List.find?_eq_some_iff_append]
  constructor
  · rintro ⟨before, c, later, texts, split, early, here, cells⟩
    exact ⟨c, texts, ⟨by simp [here], before, later, split, by simpa using early⟩, cells⟩
  · rintro ⟨c, texts, ⟨here, before, later, split, early⟩, cells⟩
    exact ⟨before, c, later, texts, split, by simpa using early, by simpa using here, cells⟩

theorem numeric_error : t.numeric name = .error fault ↔
    (t.Absent name ∧ fault = .missingColumn name) ∨ (t.Textual name ∧ fault = .columnType name) := by
  rw [← column_error, textual_iff]
  unfold numeric
  cases found : t.column name with
  | error other => simp [bind, Except.bind]
  | ok c => cases cells : c.cells <;> simp [bind, Except.bind, cells, eq_comm]

end Table

structure Requirement where
  column : String
  numbers : Bool

namespace Requirement

variable {t : Table} {r : Requirement} {fault : Fault}

inductive Fails (t : Table) : Requirement → Fault → Prop where
  | missing {r : Requirement} : t.Absent r.column → Fails t r (.missingColumn r.column)
  | text {name : String} : t.Textual name → Fails t ⟨name, true⟩ (.columnType name)

def Met (t : Table) (r : Requirement) : Prop := ∀ fault, ¬Fails t r fault

def look (t : Table) (r : Requirement) : Except Fault Unit :=
  if r.numbers then discard (t.numeric r.column) else discard (t.column r.column)

theorem look_error : r.look t = .error fault ↔ r.Fails t fault := by
  obtain ⟨name, numbers⟩ := r
  cases numbers with
  | false =>
    simp only [look, Bool.false_eq_true, if_false, discard_error, Table.column_error]
    constructor
    · rintro ⟨absent, rfl⟩
      exact .missing absent
    · intro fails
      cases fails with
      | missing absent => exact ⟨absent, rfl⟩
  | true =>
    simp only [look, if_true, discard_error, Table.numeric_error]
    constructor
    · rintro (⟨absent, rfl⟩ | ⟨textual, rfl⟩)
      · exact .missing absent
      · exact .text textual
    · intro fails
      cases fails with
      | missing absent => exact .inl ⟨absent, rfl⟩
      | text textual => exact .inr ⟨textual, rfl⟩

theorem look_ok : r.look t = .ok () ↔ r.Met t := by
  simp only [Met, ← look_error]
  cases r.look t <;> simp

theorem fails_iff : (∃ fault, r.Fails t fault) ↔ t.Absent r.column ∨ r.numbers = true ∧ t.Textual r.column := by
  constructor
  · rintro ⟨_, absent | textual⟩
    · exact .inl absent
    · exact .inr ⟨rfl, textual⟩
  · rintro (absent | ⟨numbers, textual⟩)
    · exact ⟨_, .missing absent⟩
    · obtain ⟨name, _⟩ := r
      subst numbers
      exact ⟨_, .text textual⟩

end Requirement

namespace Aggregation

variable {a : Aggregation} {t : Table} {fault : Fault}

def requirements (a : Aggregation) : List Requirement :=
  ⟨a.groupBy, false⟩ :: a.metrics.map (⟨·, true⟩) ++ a.warmup.toList.map fun warmup => ⟨warmup.column, true⟩

theorem mem_requirements {r : Requirement} : r ∈ a.requirements ↔ r = ⟨a.groupBy, false⟩ ∨
    (∃ metric ∈ a.metrics, r = ⟨metric, true⟩) ∨ ∃ warmup, a.warmup = some warmup ∧ r = ⟨warmup.column, true⟩ := by
  simp [requirements, eq_comm]

theorem forM_requirements (a : Aggregation) (t : Table) : a.requirements.forM (·.look t) = (do
    a.check t
    a.warmup.toList.forM fun warmup => discard (t.numeric warmup.column)) := by
  change ForM.forM (m := Except Fault) a.requirements _ = _
  rw [requirements, List.cons_append, List.forM_cons, List.forM_append, List.forM_map, List.forM_map]
  simp only [check, bind_assoc]
  rfl

theorem discard_summarise (a : Aggregation) (t : Table) :
    discard (a.summarise t) = a.requirements.forM (·.look t) := by
  have second : discard (a.summarise t) = discard (a.run t) := by
    unfold summarise
    cases a.run t <;> rfl
  rw [second, discard_run, discard_kept, forM_requirements]
  cases a.warmup with
  | none => rfl
  | some warmup =>
    congr 1
    funext _
    change discard (t.numeric warmup.column) = (discard (t.numeric warmup.column) >>= pure)
    rw [bind_pure]

theorem met_iff : (∀ r ∈ a.requirements, r.Met t) ↔ ∃ s, a.summarise t = .ok s := by
  simp only [← discard_ok (u := ()), discard_summarise, forM_ok, Requirement.look_ok]

theorem refused_iff : a.summarise t = .error fault ↔ ∃ before r later, a.requirements = before ++ r :: later ∧
    (∀ earlier ∈ before, earlier.Met t) ∧ r.Fails t fault := by
  simp only [← discard_error (x := a.summarise t), discard_summarise, forM_error, Requirement.look_ok,
    Requirement.look_error]

theorem fails_iff : (∃ fault, a.summarise t = .error fault) ↔ ∃ r ∈ a.requirements, ∃ fault, r.Fails t fault := by
  have failed : (∃ fault, a.summarise t = .error fault) ↔ ¬∃ s, a.summarise t = .ok s := by
    cases a.summarise t <;> simp
  rw [failed, ← met_iff]
  simp [Requirement.Met]

-- Every step behind the checks, and every place that is read there.
structure Completes (a : Aggregation) (t kept chosen : Table) (g : Grouped) (s : Summary) : Prop where
  keeps : a.kept t = .ok kept
  iterations : ∀ warmup, a.warmup = some warmup →
    ∃ values, t.numeric warmup.column = .ok values ∧ values.length = t.rows
  selects : kept.select (a.groupBy :: a.metrics) = .ok chosen
  labels : ∃ texts, chosen.labels a.groupBy = .ok texts
  metrics : ∀ metric ∈ a.metrics, ∃ values, chosen.numeric metric = .ok values
  groups : a.group t = .ok g
  rows : ∀ entry ∈ g.rows, ∀ row ∈ entry.2, ∀ values ∈ g.columns, row < values.size
  summary : a.summarise t = .ok s
  stats : ∀ entry ∈ s.groups, entry.2.length = a.metrics.length
  ranked : ∀ metric ∈ a.metrics, ∃ bars, s.ranked metric = .ok bars

theorem completes {s : Summary} (ran : a.summarise t = .ok s) : ∃ kept chosen g, Completes a t kept chosen g s := by
  obtain ⟨g, grouped, rfl⟩ := summarise_ok ran
  have steps := grouped
  unfold group at steps
  obtain ⟨_, checked, steps⟩ := bind_ok.mp steps
  obtain ⟨kept, keeps, steps⟩ := bind_ok.mp steps
  obtain ⟨chosen, selects, steps⟩ := bind_ok.mp steps
  obtain ⟨texts, labels, _⟩ := bind_ok.mp steps
  refine ⟨kept, chosen, g, keeps, ?_, selects, ⟨texts, labels⟩, ?_, grouped, group_inside grouped, ran, ?_,
    fun metric => ranked_total ran⟩
  · intro warmup given
    rw [Aggregation.kept, given] at keeps
    obtain ⟨values, found, _⟩ := bind_ok.mp keeps
    exact ⟨values, found, Table.length_numeric found⟩
  · intro metric member
    obtain ⟨values, original⟩ := (check_ok.mp checked).2 metric member
    have same := Table.numeric_select selects (List.mem_cons_of_mem _ member)
    exact ⟨_, same.trans (kept_numeric keeps original)⟩
  · rintro ⟨label, stats⟩ entry
    obtain ⟨rows, _, rfl⟩ := mem_collect.mp entry
    simp [statsOf, length_columns grouped]

theorem fails_columns : (∃ fault, a.summarise t = .error fault) ↔ t.Absent a.groupBy ∨
    (∃ metric ∈ a.metrics, t.Absent metric ∨ t.Textual metric) ∨
    ∃ warmup, a.warmup = some warmup ∧ (t.Absent warmup.column ∨ t.Textual warmup.column) := by
  rw [fails_iff]
  constructor
  · rintro ⟨r, listed, fails⟩
    rw [Requirement.fails_iff] at fails
    rcases mem_requirements.mp listed with rfl | ⟨metric, member, rfl⟩ | ⟨warmup, given, rfl⟩
    · exact .inl (by simpa using fails)
    · exact .inr (.inl ⟨metric, member, by simpa using fails⟩)
    · exact .inr (.inr ⟨warmup, given, by simpa using fails⟩)
  · rintro (absent | ⟨metric, member, wrong⟩ | ⟨warmup, given, wrong⟩)
    · exact ⟨_, mem_requirements.mpr (.inl rfl), _, .missing absent⟩
    · refine ⟨_, mem_requirements.mpr (.inr (.inl ⟨metric, member, rfl⟩)), ?_⟩
      exact Requirement.fails_iff.mpr (by simpa using wrong)
    · refine ⟨_, mem_requirements.mpr (.inr (.inr ⟨warmup, given, rfl⟩)), ?_⟩
      exact Requirement.fails_iff.mpr (by simpa using wrong)

-- Whether an aggregation fails and with what, and that nothing stands in its way if it does not.
theorem summarise_requires (a : Aggregation) (t : Table) :
    (∀ fault, a.summarise t = .error fault ↔ ∃ before r later, a.requirements = before ++ r :: later ∧
      (∀ earlier ∈ before, earlier.Met t) ∧ r.Fails t fault) ∧
    ((∃ fault, a.summarise t = .error fault) ↔ t.Absent a.groupBy ∨
      (∃ metric ∈ a.metrics, t.Absent metric ∨ t.Textual metric) ∨
      ∃ warmup, a.warmup = some warmup ∧ (t.Absent warmup.column ∨ t.Textual warmup.column)) ∧
    ((∀ r ∈ a.requirements, r.Met t) → ∃ kept chosen g s, Completes a t kept chosen g s) := by
  refine ⟨fun fault => refused_iff, fails_columns, ?_⟩
  intro met
  obtain ⟨s, ran⟩ := met_iff.mp met
  obtain ⟨kept, chosen, g, done⟩ := completes ran
  exact ⟨kept, chosen, g, s, done⟩

-- Three columns are wrong, and the first of them is reported.
example : ((of "name" ["bytes", "name", "gone"]).skipWarmup "none" 3).summarise sampleTable =
    .error (.columnType "name") := rfl

theorem summarise_requires_sample : ∃ kept chosen g s, Completes sampleAggregation sampleTable kept chosen g s := by
  refine (summarise_requires sampleAggregation sampleTable).2.2 ?_
  intro r member
  rw [← Requirement.look_ok]
  rcases mem_requirements.mp member with rfl | ⟨metric, listed, rfl⟩ | ⟨warmup, given, rfl⟩
  · rfl
  · have same : metric = "bytes" := by simpa [sampleAggregation, scaled, skipWarmup, of] using listed
    rw [same]
    rfl
  · cases given
    rfl

end Aggregation
end BenchCharts
