import BenchCharts.Proofs.Files.Path

namespace BenchCharts.Files.Tree
open Text

variable {t u next : Tree} {place start base : Place} {directory file name path : String} {names : List String}
  {content : Content} {entry : Entry}

section Writing

variable (leads : Leads t directory base) (plain : Plain file)

include leads plain

theorem write_at : t.write (joinPath directory file) content =
    match t.at? (base ++ [Utf8.encode file]) with
    | some .directory => .error .isDirectory
    | _ => .ok (t.put (base ++ [Utf8.encode file]) (.file content)) := by
  obtain ⟨before, _, split⟩ := steps_file directory
  have resolved := leads.file file plain
  unfold resolve at resolved
  unfold write
  split at resolved
  · cases resolved
  · rename_i given
    have parts : (steps (joinPath directory file)).reverse = file :: before.reverse := by
      rw [split file plain, List.reverse_concat]
    have filled : (some file == some "") = false := by simpa using plain.full
    have kept : (file :: before.reverse).dropWhile (·.isEmpty) = file :: before.reverse :=
      parts_kept (by simpa using plain.full)
    rw [← List.reverse_reverse (steps _), parts] at resolved
    rw [if_neg given, parts]
    dsimp only
    rw [kept, resolved, List.head?_cons, filled]
    dsimp only [bind, Except.bind]
    rcases t.at? (base ++ [Utf8.encode file]) with _ | ⟨_ | _⟩ <;> rfl

theorem write_free (free : t.at? (base ++ [Utf8.encode file]) ≠ some .directory) :
    t.write (joinPath directory file) content = .ok (t.put (base ++ [Utf8.encode file]) (.file content)) := by
  rw [write_at leads plain]
  split
  · rename_i blocked
    exact absurd blocked free
  · rfl

theorem write_blocked (blocked : t.at? (base ++ [Utf8.encode file]) = some .directory) :
    t.write (joinPath directory file) content = .error .isDirectory := by
  rw [write_at leads plain, blocked]

end Writing

-- Something can be written to the path.
def Writable (t : Tree) (path : String) : Prop := ∃ content next, t.write path content = .ok next

theorem writable_leads (plain : Plain file) (writable : t.Writable (joinPath directory file)) :
    ∃ base, Leads t directory base := by
  obtain ⟨content, next, wrote⟩ := writable
  obtain ⟨place, resolved, _⟩ := write_ok wrote
  obtain ⟨base, leads, _⟩ := leads_of_file plain resolved
  exact ⟨base, leads⟩

theorem writable_free (leads : Leads t directory base) (plain : Plain file)
    (writable : t.Writable (joinPath directory file)) : t.at? (base ++ [Utf8.encode file]) ≠ some .directory := by
  obtain ⟨content, next, wrote⟩ := writable
  intro blocked
  rw [write_blocked leads plain blocked] at wrote
  cases wrote

-- What making directories along a way does at a place: nothing, or a directory on the way where
-- nothing was.
def Grown (t u : Tree) (start : Place) (way : List String) (place : Place) : Prop :=
  u.at? place = t.at? place ∨
    t.at? place = none ∧ u.at? place = some .directory ∧ ∃ front, front <+: way ∧ u.walk start front = .ok place

theorem Grown.kept (grown : Grown t u start names place) (held : t.at? place = some entry) :
    u.at? place = some entry := by
  rcases grown with same | ⟨free, _⟩
  · rw [same, held]
  · rw [held] at free
    cases free

theorem Grown.unmade {content : Content} (grown : Grown t u start names place)
    (held : u.at? place = some (.file content)) : t.at? place = some (.file content) := by
  rcases grown with same | ⟨_, made, _⟩
  · rw [← same, held]
  · cases held.symm.trans made

theorem Grown.moved {v : Tree} (kept : ∀ p, u.at? p = some .directory → v.at? p = some .directory)
    (same : v.at? place = u.at? place) (grown : Grown t u start names place) : Grown t v start names place := by
  unfold Grown at grown ⊢
  rw [same]
  rcases grown with before | ⟨free, made, front, early, walked⟩
  · exact .inl before
  · exact .inr ⟨free, made, front, early, walk_kept kept walked⟩

theorem Grown.further {finish : Place} (stepped : u.step start name = .ok finish)
    (grown : Grown t u finish names place) : Grown t u start (name :: names) place := by
  rcases grown with same | ⟨free, made, front, before, walked⟩
  · exact .inl same
  · exact .inr ⟨free, made, name :: front, List.cons_prefix_cons.mpr ⟨rfl, before⟩,
      bind_ok.mpr ⟨finish, stepped, walked⟩⟩

-- The tree that a change in steps ends in, whether or not it got to its end.
def reached : Except Halt Tree → Tree
  | .ok next => next
  | .error halt => halt.left

-- By the steps that are left. A place is new either because it was made here or later on, and the way
-- to it stays open in the tree that is reached.
theorem makeFrom_grown (dotted made : Bool) (t : Tree) (start : Place) (names : List String) (place : Place) :
    Grown t (reached (makeFrom dotted made t start names)) start names place := by
  induction names generalizing t start made place with
  | nil => exact .inl rfl
  | cons name names ih =>
    unfold makeFrom
    cases stepped : t.step start name with
    | error obstacle => exact .inl rfl
    | ok finish =>
      dsimp only
      cases held : t.at? finish with
      | some entry =>
        cases entry with
        | file content => exact .inl rfl
        | directory => exact (ih made t finish place).further (step_kept (fun p => (ih made t finish p).kept) stepped)
      | none =>
        dsimp only
        split
        · exact .inl rfl
        · have free : t.at? finish ≠ some .directory := by simp [held]
          have grown := ih true (t.put finish .directory) finish
          have walked := step_kept (fun p entered => (grown p).kept ((put_keeps t finish _).directories p entered)) stepped
          by_cases here : place = finish
          · subst here
            exact .inr ⟨held, (grown place).kept (put_same free), [name],
              List.cons_prefix_cons.mpr ⟨rfl, List.nil_prefix⟩, bind_ok.mpr ⟨place, walked, rfl⟩⟩
          · refine Grown.further walked ?_
            have above := grown place
            unfold Grown at above ⊢
            rw [put_other here] at above
            exact above

theorem makeFrom_cons {dotted made : Bool} (making : makeFrom dotted made t start (name :: names) = .ok u) :
    ∃ finish before middle, t.step start name = .ok finish ∧ middle.at? finish = some .directory ∧
      makeFrom dotted before middle finish names = .ok u := by
  unfold makeFrom at making
  split at making
  · cases making
  · rename_i finish stepped
    split at making
    · rename_i entered
      exact ⟨finish, made, t, stepped, entered, making⟩
    · cases making
    · rename_i missing
      have free : t.at? finish ≠ some .directory := by simp [missing]
      split at making
      · cases making
      · exact ⟨finish, true, t.put finish .directory, stepped, put_same free, making⟩

theorem makeFrom_here (dotted made : Bool) (t : Tree) (start : Place) (names : List String) :
    (reached (makeFrom dotted made t start names)).here = t.here := by
  induction names generalizing t start made with
  | nil => rfl
  | cons name names ih =>
    unfold makeFrom
    split
    · rfl
    · split
      · exact ih made t _
      · rfl
      · split
        · rfl
        · rw [ih]
          exact put_here

theorem makeFrom_keeps {dotted made : Bool} (making : makeFrom dotted made t start names = .ok u) : Keeps t u where
  here := by
    have same := makeFrom_here dotted made t start names
    rw [making] at same
    exact same
  directories := by
    intro p
    have grown := makeFrom_grown dotted made t start names p
    rw [making] at grown
    exact grown.kept

theorem makeFrom_walk {dotted made : Bool} (entered : t.at? start = some .directory)
    (making : makeFrom dotted made t start names = .ok u) :
    ∃ base, u.walk start names = .ok base ∧ u.at? base = some .directory := by
  induction names generalizing t start made with
  | nil => exact ⟨start, rfl, (makeFrom_keeps making).directories start entered⟩
  | cons name names ih =>
    obtain ⟨finish, before, middle, stepped, inside, later⟩ := makeFrom_cons making
    obtain ⟨base, walked, directory⟩ := ih inside later
    exact ⟨base, bind_ok.mpr ⟨finish, step_kept (makeFrom_keeps making).directories stepped, walked⟩, directory⟩

theorem walk_idle (entered : t.at? base = some .directory) (idle : ∀ name ∈ names, isIdle name = true) :
    t.walk base names = .ok base := by
  induction names with
  | nil => rfl
  | cons name names ih =>
    obtain ⟨here, later⟩ := List.forall_mem_cons.mp idle
    have stays : name = "" ∨ name = "." := by simpa [isIdle] using here
    refine bind_ok.mpr ⟨base, ?_, ih later⟩
    unfold step
    rw [entered]
    exact if_pos stays

theorem steps_idle (path : String) : steps path =
    ((steps path).reverse.dropWhile isIdle).reverse ++ ((steps path).reverse.takeWhile isIdle).reverse := by
  rw [← List.reverse_append, List.takeWhile_append_dropWhile, List.reverse_reverse]

theorem makeDirectories_grown (t : Tree) (path : String) (place : Place) :
    Grown t (reached (t.makeDirectories path)) (t.origin path) (steps path) place := by
  unfold makeDirectories
  split
  · exact .inl rfl
  · have grown := makeFrom_grown (((steps path).reverse.takeWhile isIdle).contains ".") false t (t.origin path)
      ((steps path).reverse.dropWhile isIdle).reverse place
    rcases grown with same | ⟨free, made, front, before, walked⟩
    · exact .inl same
    · refine .inr ⟨free, made, front, before.trans ?_, walked⟩
      exact ⟨_, (steps_idle path).symm⟩

theorem makeDirectories_here (t : Tree) (path : String) : (reached (t.makeDirectories path)).here = t.here := by
  unfold makeDirectories
  split
  · rfl
  · exact makeFrom_here _ _ _ _ _

theorem makeDirectories_keeps (making : t.makeDirectories path = .ok u) : Keeps t u := by
  unfold makeDirectories at making
  split at making
  · cases making
    exact .refl
  · exact makeFrom_keeps making

theorem makeDirectories_leads (making : t.makeDirectories path = .ok u) : ∃ base, Leads u path base := by
  have origin := (makeDirectories_keeps making).origin path
  unfold makeDirectories at making
  split at making
  · rename_i empty
    cases making
    rw [String.isEmpty_iff.mp empty]
    exact ⟨_, leads_of_walk (walk_idle (origin_entered t "") (by decide)) (origin_entered t "")⟩
  · obtain ⟨base, walked, entered⟩ := makeFrom_walk (origin_entered t path) making
    refine ⟨base, leads_of_walk ?_ entered⟩
    rw [origin, steps_idle path, walk_append, walked]
    refine walk_idle entered ?_
    intro name member
    exact List.all_eq_true.mp List.all_takeWhile name (List.mem_reverse.mp member)

section There

variable {v : Tree} {dotted made : Bool}

theorem walk_entered (walked : t.walk start names = .ok base) (entered : t.at? base = some .directory) :
    t.at? start = some .directory := by
  cases names with
  | nil =>
    cases walked
    exact entered
  | cons name names =>
    obtain ⟨middle, stepped, _⟩ := bind_ok.mp walked
    exact step_entered stepped

-- Where all directories on the way are there, none is made.
theorem makeFrom_there (walked : t.walk start names = .ok base) (entered : t.at? base = some .directory) :
    makeFrom dotted made t start names = .ok t := by
  induction names generalizing start with
  | nil => rfl
  | cons name names ih =>
    obtain ⟨middle, stepped, rest⟩ := bind_ok.mp walked
    unfold makeFrom
    simp only [stepped, walk_entered rest entered]
    exact ih rest

theorem makeDirectories_again (making : t.makeDirectories path = .ok u) (keeps : Keeps u v) :
    v.makeDirectories path = .ok v := by
  have origin := ((makeDirectories_keeps making).trans keeps).origin path
  unfold makeDirectories at making ⊢
  split at making
  · rename_i empty
    rw [if_pos empty]
  · rename_i filled
    obtain ⟨base, walked, entered⟩ := makeFrom_walk (origin_entered t path) making
    rw [if_neg filled, origin]
    exact makeFrom_there (walk_kept keeps.directories walked) (keeps.directories base entered)

theorem makeDirectories_there (found : t.find path = .ok (base, .directory)) : t.makeDirectories path = .ok t := by
  obtain ⟨resolved, entered⟩ := find_ok.mp found
  unfold resolve at resolved
  split at resolved
  · cases resolved
  · rename_i filled
    rw [steps_idle path, walk_append] at resolved
    obtain ⟨middle, walked, last⟩ := bind_ok.mp resolved
    unfold makeDirectories
    rw [if_neg filled]
    exact makeFrom_there walked (walk_entered last entered)

end There

section Listing

theorem mem_places (inside : place ≠ []) : place ∈ t.places ↔ (t.at? place).isSome = true := by
  rw [at_entries inside, Option.isSome_map, List.find?_isSome]
  simp [places]

theorem list_found {listed : List Name} (given : t.list path = .ok listed) :
    ∃ base, t.resolve path = .ok base ∧ t.at? base = some .directory := by
  obtain ⟨⟨base, entry⟩, found, settled⟩ := bind_ok.mp given
  cases entry with
  | file content => cases settled
  | directory => exact ⟨base, find_ok.mp found⟩

-- Every name right below the place is listed, once.
theorem list_at (resolved : t.resolve path = .ok base) (entered : t.at? base = some .directory) :
    ∃ listed, t.list path = .ok listed ∧ listed.Nodup ∧
      ∀ name, name ∈ listed ↔ (t.at? (base ++ [name])).isSome = true := by
  have last : ∀ p name, (if p.dropLast = base then p.getLast? else none) = some name ↔ p = base ++ [name] := by
    intro p name
    constructor
    · intro given
      split at given
      · rename_i above
        obtain ⟨front, rfl⟩ := List.getLast?_eq_some_iff.mp given
        rw [← above, List.dropLast_concat]
      · cases given
    · rintro rfl
      simp
  refine ⟨t.places.filterMap fun p => if p.dropLast = base then p.getLast? else none, ?_, ?_, ?_⟩
  · unfold list
    exact bind_ok.mpr ⟨(base, .directory), find_ok.mpr ⟨resolved, entered⟩, rfl⟩
  · refine List.Pairwise.filterMap _ ?_ t.unique
    rintro p q differ name one other two rfl
    exact differ (((last p name).mp one).trans ((last q name).mp two).symm)
  · intro name
    rw [List.mem_filterMap, ← mem_places (by simp)]
    constructor
    · intro ⟨p, member, given⟩
      rw [← (last p name).mp given]
      exact member
    · intro member
      exact ⟨_, member, (last _ name).mpr rfl⟩

theorem leads_of_resolve (resolved : t.resolve path = .ok base) (entered : t.at? base = some .directory) :
    Leads t path base := by
  unfold resolve at resolved
  split at resolved
  · cases resolved
  · exact leads_of_walk resolved entered

end Listing
end BenchCharts.Files.Tree
