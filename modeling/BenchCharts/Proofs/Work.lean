import BenchCharts.Plot.Draw
import BenchCharts.Proofs.Outcome

namespace BenchCharts
open Files

namespace Logged

variable {ε ε' α β : Type}

theorem bind_ok {x : Logged ε α} {f : α → Logged ε β} {b : β} :
    (x >>= f).result = .ok b ↔ ∃ a, x.result = .ok a ∧ (f a).result = .ok b := by
  rw [result_bind]
  exact BenchCharts.bind_ok

theorem mapError_ok {x : Logged ε α} {f : ε → ε'} {a : α} : (x.mapError f).result = .ok a ↔ x.result = .ok a :=
  BenchCharts.mapError_ok

theorem mapError_error {x : Logged ε α} {f : ε → ε'} {e : ε'} :
    (x.mapError f).result = .error e ↔ ∃ cause, x.result = .error cause ∧ f cause = e :=
  BenchCharts.mapError_error

theorem of_ok {x : Except ε α} {f : ε → ε'} {events : List Event} {a : α} :
    of (x.mapError f) = ⟨events, .ok a⟩ ↔ x = .ok a ∧ events = [] := by
  constructor
  · intro given
    obtain ⟨silent, result⟩ := Logged.mk.inj given
    exact ⟨BenchCharts.mapError_ok.mp result, silent.symm⟩
  · intro ⟨result, silent⟩
    rw [silent, result]
    rfl

theorem bind_same {x : Logged ε α} {f g : α → Logged ε β} (same : ∀ a, x.result = .ok a → f a = g a) :
    (x >>= f) = (x >>= g) := by
  show andThen x f = andThen x g
  unfold andThen
  split
  · rfl
  · rename_i a given
    rw [same a given]

end Logged

namespace Work

variable {α β : Type} {t after : Tree} {events : List Event} {x : Work α} {f : α → Work β} {a : α} {b : β}

theorem bind_ok : (x >>= f) t = (after, ⟨events, .ok b⟩) ↔ ∃ middle first a rest,
    x t = (middle, ⟨first, .ok a⟩) ∧ f a middle = (after, ⟨rest, .ok b⟩) ∧ events = first ++ rest := by
  show andThen x f t = _ ↔ _
  unfold andThen
  constructor
  · intro ran
    split at ran
    · cases ran
    · rename_i middle first a done
      obtain ⟨tree, logged⟩ := Prod.mk.inj ran
      obtain ⟨joined, result⟩ := Logged.mk.inj logged
      exact ⟨middle, first, a, (f a middle).2.events, done, by rw [← tree, ← result], joined.symm⟩
  · intro ⟨middle, first, a, rest, one, two, joined⟩
    rw [one, joined]
    simp only [two]

theorem pure_ok {c : α} : (pure a : Work α) t = (after, ⟨events, .ok c⟩) ↔ after = t ∧ events = [] ∧ a = c := by
  constructor
  · intro ran
    cases ran
    exact ⟨rfl, rfl, rfl⟩
  · intro ⟨same, silent, equal⟩
    rw [same, silent, equal]
    rfl

theorem note_ok {event : Event} {u : Unit} :
    note event t = (after, ⟨events, .ok u⟩) ↔ after = t ∧ events = [event] := by
  constructor
  · intro ran
    cases ran
    exact ⟨rfl, rfl⟩
  · intro ⟨same, one⟩
    rw [same, one]
    rfl

-- What follows a report.
theorem noted_ok {event : Event} {rest : Work β} : (note event >>= fun _ => rest) t = (after, ⟨events, .ok b⟩) ↔
    ∃ later, rest t = (after, ⟨later, .ok b⟩) ∧ events = event :: later := by
  rw [bind_ok]
  constructor
  · intro ⟨middle, first, u, later, noted, done, joined⟩
    obtain ⟨rfl, rfl⟩ := note_ok.mp noted
    exact ⟨later, done, joined⟩
  · intro ⟨later, done, joined⟩
    exact ⟨t, [event], (), later, rfl, done, joined⟩

theorem mapped_ok {g : α → β} : (x >>= fun a => pure (g a)) t = (after, ⟨events, .ok b⟩) ↔
    ∃ a, x t = (after, ⟨events, .ok a⟩) ∧ g a = b := by
  rw [bind_ok]
  constructor
  · intro ⟨middle, first, a, rest, done, given, joined⟩
    obtain ⟨rfl, rfl, same⟩ := pure_ok.mp given
    rw [joined, List.append_nil]
    exact ⟨a, done, same⟩
  · intro ⟨a, done, same⟩
    exact ⟨after, events, a, [], done, pure_ok.mpr ⟨rfl, rfl, same⟩, (List.append_nil events).symm⟩

theorem look_ok {look : Tree → Logged Failure α} :
    Work.look look t = (after, ⟨events, .ok a⟩) ↔ after = t ∧ look t = ⟨events, .ok a⟩ := by
  constructor
  · intro ran
    obtain ⟨same, seen⟩ := Prod.mk.inj ran
    exact ⟨same.symm, seen⟩
  · intro ⟨same, seen⟩
    rw [same, ← seen]
    rfl

theorem advance_ok {reason : Obstacle → Reason} {turn : Tree → Except Tree.Halt Tree} {u : Unit} :
    advance reason turn t = (after, ⟨events, .ok u⟩) ↔ turn t = .ok after ∧ events = [] := by
  unfold advance
  cases turned : turn t with
  | error halt => simp [Logged.fail]
  | ok next =>
    constructor
    · intro ran
      cases ran
      exact ⟨rfl, rfl⟩
    · intro ⟨same, silent⟩
      cases same
      rw [silent]
      rfl

theorem change_ok {reason : Obstacle → Reason} {turn : Tree → Except Obstacle Tree} {u : Unit} :
    change reason turn t = (after, ⟨events, .ok u⟩) ↔ turn t = .ok after ∧ events = [] := by
  rw [change, advance_ok, mapError_ok]

theorem within_ok {context : Context} :
    within context x t = (after, ⟨events, .ok a⟩) ↔ x t = (after, ⟨events, .ok a⟩) := by
  unfold within
  obtain ⟨tree, ⟨reported, result⟩⟩ := x t
  cases result with
  | error failure => exact ⟨nofun, nofun⟩
  | ok b => exact Iff.rfl

theorem ran_ok (gave : (x t).2.result.toOption = some a) : x t = ((x t).1, ⟨(x t).2.events, .ok a⟩) := by
  generalize x t = outcome at gave ⊢
  obtain ⟨tree, ⟨reported, result⟩⟩ := outcome
  cases result with
  | error failure => cases gave
  | ok b =>
    cases gave
    rfl

theorem ran_error (failed : (x t).2.result.toOption = none) :
    ∃ failure, x t = ((x t).1, ⟨(x t).2.events, .error failure⟩) := by
  generalize x t = outcome at failed ⊢
  obtain ⟨tree, ⟨reported, result⟩⟩ := outcome
  cases result with
  | error failure => exact ⟨failure, rfl⟩
  | ok b => cases failed

-- The tree and the result of work, without what it reports.
def outcome (x : Work α) (t : Tree) : Tree × Except Failure α := ((x t).1, (x t).2.result)

theorem outcome_exact {result : Except Failure α} :
    x.outcome t = (after, result) ↔ ∃ events, x t = (after, ⟨events, result⟩) := by
  constructor
  · intro ran
    cases ran
    exact ⟨_, rfl⟩
  · intro ⟨events, ran⟩
    rw [outcome, ran]

theorem outcome_go {middle : Tree} (first : x.outcome t = (middle, .ok a)) :
    (x >>= f).outcome t = (f a).outcome middle := by
  obtain ⟨events, ran⟩ := outcome_exact.mp first
  show ((andThen x f t).1, (andThen x f t).2.result) = _
  unfold andThen
  rw [ran]
  rfl

theorem outcome_stop {failure : Failure} (first : x.outcome t = (after, .error failure)) :
    (x >>= f).outcome t = (after, .error failure) := by
  obtain ⟨events, ran⟩ := outcome_exact.mp first
  show ((andThen x f t).1, (andThen x f t).2.result) = _
  unfold andThen
  rw [ran]

theorem outcome_noted {event : Event} {rest : Work β} :
    (note event >>= fun _ => rest).outcome t = rest.outcome t := outcome_go rfl

theorem outcome_mapped {g : α → β} : (x >>= fun a => pure (g a)).outcome t =
    ((x.outcome t).1, (x.outcome t).2.map g) := by
  cases ran : x.outcome t with
  | mk next result =>
    cases result with
    | error failure => exact outcome_stop ran
    | ok a => exact outcome_go ran

theorem outcome_look {look : Tree → Logged Failure α} : (Work.look look).outcome t = (t, (look t).result) := rfl

theorem outcome_advance {reason : Obstacle → Reason} {turn : Tree → Except Tree.Halt Tree} :
    (advance reason turn).outcome t =
      match turn t with
      | .ok next => (next, .ok ())
      | .error halt => (halt.left, .error (.of (reason halt.obstacle))) := by
  unfold outcome advance
  cases turn t <;> rfl

theorem outcome_change {reason : Obstacle → Reason} {turn : Tree → Except Obstacle Tree} :
    (change reason turn).outcome t =
      match turn t with
      | .ok next => (next, .ok ())
      | .error obstacle => (t, .error (.of (reason obstacle))) := by
  rw [change, outcome_advance]
  cases turn t <;> rfl

theorem outcome_within {context : Context} :
    (within context x).outcome t = ((x.outcome t).1, (x.outcome t).2.mapError (·.within context)) := rfl

end Work
end BenchCharts
