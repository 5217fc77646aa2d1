namespace BenchCharts

variable {ε α β : Type}

theorem bind_ok {x : Except ε α} {f : α → Except ε β} {b : β} :
    (x >>= f) = .ok b ↔ ∃ a, x = .ok a ∧ f a = .ok b := by
  cases x with
  | error e => exact ⟨nofun, fun ⟨_, ran, _⟩ => nomatch ran⟩
  | ok a => exact ⟨fun ran => ⟨a, rfl, ran⟩, fun ⟨_, same, ran⟩ => by cases same; exact ran⟩

theorem bind_error {x : Except ε α} {f : α → Except ε β} {e : ε} :
    (x >>= f) = .error e ↔ x = .error e ∨ ∃ a, x = .ok a ∧ f a = .error e := by
  cases x <;> simp [bind, Except.bind]

theorem map_ok {x : Except ε α} {f : α → β} {b : β} : x.map f = .ok b ↔ ∃ a, x = .ok a ∧ f a = b := by
  cases x <;> simp [Except.map]

theorem map_error {x : Except ε α} {f : α → β} {e : ε} : x.map f = .error e ↔ x = .error e := by
  cases x <;> simp [Except.map]

theorem mapError_ok {ε' : Type} {x : Except ε α} {f : ε → ε'} {a : α} : x.mapError f = .ok a ↔ x = .ok a := by
  cases x with
  | error e => exact ⟨nofun, nofun⟩
  | ok b => exact ⟨fun same => by cases same; rfl, fun same => by cases same; rfl⟩

theorem mapError_error {ε' : Type} {x : Except ε α} {f : ε → ε'} {e : ε'} :
    x.mapError f = .error e ↔ ∃ cause, x = .error cause ∧ f cause = e := by
  cases x with
  | error cause =>
    constructor
    · intro same
      exact ⟨cause, rfl, Except.error.inj same⟩
    · rintro ⟨_, given, rfl⟩
      cases given
      rfl
  | ok a => exact ⟨nofun, nofun⟩

theorem toOption_ok {x : Except ε α} {a : α} : x.toOption = some a ↔ x = .ok a := by
  cases x <;> simp [Except.toOption]

theorem toOption_none {x : Except ε α} : x.toOption = none ↔ ∃ e, x = .error e := by
  cases x <;> simp [Except.toOption]

-- All elements succeed, each with the result at its place.
theorem mapM_ok {f : α → Except ε β} {xs : List α} {ys : List β} :
    xs.mapM f = .ok ys ↔ xs.map f = ys.map .ok := by
  induction xs generalizing ys with
  | nil => cases ys <;> simp [pure, Except.pure]
  | cons x xs ih =>
    simp only [List.mapM_cons, bind_ok]
    constructor
    · rintro ⟨y, first, rest, later, same⟩
      cases same
      simp [first, ih.mp later]
    · intro mapped
      cases ys with
      | nil => simp at mapped
      | cons y ys =>
        simp only [List.map_cons, List.cons.injEq] at mapped
        exact ⟨y, mapped.1, ys, ih.mpr mapped.2, rfl⟩

theorem mapM_some {f : α → Option β} {xs : List α} {ys : List β} :
    xs.mapM f = some ys ↔ xs.map f = ys.map some := by
  induction xs generalizing ys with
  | nil => cases ys <;> simp
  | cons x xs ih =>
    rw [List.mapM_cons]
    cases first : f x with
    | none => cases ys <;> simp [first]
    | some y =>
      cases rest : xs.mapM f with
      | none => cases ys <;> simp_all
      | some others => cases ys <;> simp_all [← ih]

theorem mapM_total {f : α → Except ε β} {xs : List α} (all : ∀ x ∈ xs, ∃ y, f x = .ok y) :
    ∃ ys, xs.mapM f = .ok ys := by
  induction xs with
  | nil => exact ⟨[], rfl⟩
  | cons x xs ih =>
    obtain ⟨⟨y, first⟩, later⟩ := List.forall_mem_cons.mp all
    obtain ⟨ys, rest⟩ := ih later
    exact ⟨y :: ys, by rw [List.mapM_cons, first, rest]; rfl⟩

-- All elements succeed, or there is a first one that does not.
theorem first_failure (f : α → Except ε β) (xs : List α) : (∀ x ∈ xs, ∃ y, f x = .ok y) ∨
    ∃ before x later e, xs = before ++ x :: later ∧ (∀ b ∈ before, ∃ y, f b = .ok y) ∧ f x = .error e := by
  induction xs with
  | nil => exact .inl nofun
  | cons x xs ih =>
    cases given : f x with
    | error e => exact .inr ⟨[], x, xs, e, rfl, nofun, given⟩
    | ok y =>
      rcases ih with all | ⟨before, z, later, e, rfl, early, failed⟩
      · exact .inl (List.forall_mem_cons.mpr ⟨⟨y, given⟩, all⟩)
      · exact .inr ⟨x :: before, z, later, e, rfl, List.forall_mem_cons.mpr ⟨⟨y, given⟩, early⟩, failed⟩

theorem mapM_stop {f : α → Except ε β} {before later : List α} {x : α} {e : ε}
    (early : ∀ b ∈ before, ∃ y, f b = .ok y) (failed : f x = .error e) :
    (before ++ x :: later).mapM f = .error e := by
  induction before with
  | nil =>
    rw [List.nil_append, List.mapM_cons, failed]
    rfl
  | cons b before ih =>
    obtain ⟨⟨y, first⟩, rest⟩ := List.forall_mem_cons.mp early
    rw [List.cons_append, List.mapM_cons, first, ih rest]
    rfl

theorem mapM_error {f : α → Except ε β} {xs : List α} {e : ε} : xs.mapM f = .error e ↔
    ∃ before x later, xs = before ++ x :: later ∧ (∀ b ∈ before, ∃ y, f b = .ok y) ∧ f x = .error e := by
  constructor
  · intro ran
    rcases first_failure f xs with all | ⟨before, x, later, other, rfl, early, failed⟩
    · obtain ⟨ys, ok⟩ := mapM_total all
      rw [ok] at ran
      cases ran
    · rw [mapM_stop early failed] at ran
      cases ran
      exact ⟨before, x, later, rfl, early, failed⟩
  · rintro ⟨before, x, later, rfl, early, failed⟩
    exact mapM_stop early failed

theorem forM_ok {f : α → Except ε Unit} {xs : List α} {u : Unit} : xs.forM f = .ok u ↔ ∀ x ∈ xs, f x = .ok u := by
  induction xs with
  | nil => simp [List.forM, pure, Except.pure]
  | cons x xs ih =>
    rw [List.forM, bind_ok, List.forall_mem_cons, ← ih]
    exact ⟨fun ⟨_, first, rest⟩ => ⟨first, rest⟩, fun ⟨first, rest⟩ => ⟨u, first, rest⟩⟩

theorem forM_stop {f : α → Except ε Unit} {before later : List α} {x : α} {e : ε}
    (early : ∀ b ∈ before, f b = .ok ()) (failed : f x = .error e) : (before ++ x :: later).forM f = .error e := by
  induction before with
  | nil =>
    rw [List.nil_append, List.forM, failed]
    rfl
  | cons b before ih =>
    obtain ⟨first, rest⟩ := List.forall_mem_cons.mp early
    rw [List.cons_append, List.forM, first]
    exact ih rest

-- The first element that fails decides.
theorem forM_error {f : α → Except ε Unit} {xs : List α} {e : ε} : xs.forM f = .error e ↔
    ∃ before x later, xs = before ++ x :: later ∧ (∀ b ∈ before, f b = .ok ()) ∧ f x = .error e := by
  constructor
  · intro ran
    rcases first_failure f xs with all | ⟨before, x, later, other, rfl, early, failed⟩
    · have ok : xs.forM f = .ok () := forM_ok.mpr fun x member => (all x member).choose_spec
      rw [ok] at ran
      cases ran
    · have reached : ∀ b ∈ before, f b = .ok () := fun b member => (early b member).choose_spec
      rw [forM_stop reached failed] at ran
      cases ran
      exact ⟨before, x, later, rfl, reached, failed⟩
  · rintro ⟨before, x, later, rfl, early, failed⟩
    exact forM_stop early failed

theorem discard_ok {x : Except ε α} {u : Unit} : discard x = .ok u ↔ ∃ a, x = .ok a := by
  cases x <;> simp [discard, Functor.mapConst, Except.map]

theorem discard_error {x : Except ε α} {e : ε} : discard x = .error e ↔ x = .error e := by
  cases x <;> simp [discard, Functor.mapConst, Except.map]

end BenchCharts
