import BenchCharts.Files.Tree
import BenchCharts.Proofs.Entries
import BenchCharts.Proofs.Outcome

namespace BenchCharts.Files.Tree

variable {t next : Tree} {place other start finish : Place} {entry : Entry} {name path : String}
  {names : List String} {content : Content}

@[simp] theorem at_root : t.at? [] = some .directory := rfl

theorem at_entries (inside : place ≠ []) : t.at? place = (t.entries.find? (·.1 == place)).map (·.2) := by
  unfold at? entryAt
  rw [if_neg inside]

theorem put_directory (held : t.at? place = some .directory) (entry : Entry) : t.put place entry = t := by
  unfold put
  rw [dif_pos held]

theorem put_entries (free : t.at? place ≠ some .directory) :
    (t.put place entry).entries = entering t.entries place entry := by
  unfold put
  rw [dif_neg free]

@[simp] theorem put_here : (t.put place entry).here = t.here := by
  unfold put
  split <;> rfl

theorem put_same (free : t.at? place ≠ some .directory) : (t.put place entry).at? place = some entry := by
  have inside : place ≠ [] := by
    rintro rfl
    exact free rfl
  rw [at_entries inside, put_entries free]
  unfold entering
  split
  · rename_i present
    obtain ⟨⟨p, e⟩, member, rfl⟩ := List.mem_map.mp present
    have found := find_entry t.unique member
    rw [List.find?_map, at_over, found]
    simp
  · rename_i absent
    rw [List.find?_append, find_absent absent]
    simp

theorem put_other (differ : other ≠ place) : (t.put place entry).at? other = t.at? other := by
  by_cases held : t.at? place = some .directory
  · rw [put_directory held]
  · unfold at?
    rw [put_entries held, entryAt_entering differ]

section Overwriting

-- The same places in the same order. The root is looked at apart, as it is a directory whatever is
-- entered there.
structure Overwritten (t u : Tree) : Prop where
  places : u.places = t.places
  root : u.entries.lookup [] = t.entries.lookup []
  here : u.here = t.here

variable {u v : Tree}

theorem Overwritten.refl : Overwritten t t := ⟨rfl, rfl, rfl⟩

theorem Overwritten.trans (one : Overwritten t u) (two : Overwritten u v) : Overwritten t v :=
  ⟨two.places.trans one.places, two.root.trans one.root, two.here.trans one.here⟩

theorem put_overwritten (inside : place ≠ []) (present : place ∈ t.places) : Overwritten t (t.put place entry) := by
  by_cases held : t.at? place = some .directory
  · rw [put_directory held]
    exact .refl
  · refine ⟨?_, ?_, put_here⟩
    · unfold places at present ⊢
      rw [put_entries held, entering, if_pos present, places_over]
    · rw [lookup_find, lookup_find, put_entries held, find_entering (Ne.symm inside)]

-- A tree that was overwritten with what was there is the same tree.
theorem Overwritten.same (redone : Overwritten t u) (shown : ∀ place, u.at? place = t.at? place) : u = t := by
  have entries : u.entries = t.entries := by
    refine eq_of_lookup t.unique redone.places ?_
    intro place
    by_cases root : place = []
    · rw [root, redone.root]
    · rw [lookup_find, lookup_find, ← at_entries root, ← at_entries root, shown]
  have here := redone.here
  cases t
  cases u
  cases entries
  cases here
  rfl

end Overwriting

section Kept

-- Only directories are stepped through: where they stay, every way that led somewhere leads there still.
variable {u : Tree} (kept : ∀ p, t.at? p = some .directory → u.at? p = some .directory)

theorem step_entered (stepped : t.step start name = .ok finish) : t.at? start = some .directory := by
  unfold step at stepped
  split at stepped
  · cases stepped
  · cases stepped
  · rename_i entered
    exact entered

include kept

theorem step_kept (stepped : t.step start name = .ok finish) : u.step start name = .ok finish := by
  have entered := step_entered stepped
  unfold step at stepped ⊢
  rw [entered] at stepped
  rw [kept start entered]
  exact stepped

theorem walk_kept (walked : t.walk start names = .ok finish) : u.walk start names = .ok finish := by
  induction names generalizing start with
  | nil => exact walked
  | cons name names ih =>
    obtain ⟨middle, stepped, rest⟩ := bind_ok.mp walked
    exact bind_ok.mpr ⟨middle, step_kept kept stepped, ih rest⟩

end Kept

theorem origin_entered (t : Tree) (path : String) : t.at? (t.origin path) = some .directory := by
  unfold origin
  split
  · rfl
  · exact t.entered

-- A tree with the same working directory and at least the same directories.
structure Keeps (t u : Tree) : Prop where
  here : u.here = t.here
  directories : ∀ p, t.at? p = some .directory → u.at? p = some .directory

namespace Keeps

variable {u v : Tree}

theorem refl : Keeps t t := ⟨rfl, fun _ => id⟩

theorem trans (one : Keeps t u) (two : Keeps u v) : Keeps t v :=
  ⟨two.here.trans one.here, fun p entered => two.directories p (one.directories p entered)⟩

theorem origin (keeps : Keeps t u) (path : String) : u.origin path = t.origin path := by
  unfold Tree.origin
  rw [keeps.here]

theorem resolve (keeps : Keeps t u) (resolved : t.resolve path = .ok finish) : u.resolve path = .ok finish := by
  unfold Tree.resolve at resolved ⊢
  split at resolved
  · cases resolved
  · rename_i filled
    rw [if_neg filled, keeps.origin]
    exact walk_kept keeps.directories resolved

end Keeps

theorem put_keeps (t : Tree) (place : Place) (entry : Entry) : Keeps t (t.put place entry) where
  here := put_here
  directories := by
    intro p entered
    by_cases same : p = place
    · subst same
      rw [put_directory entered]
      exact entered
    · rw [put_other same]
      exact entered

theorem find_ok : t.find path = .ok (place, entry) ↔ t.resolve path = .ok place ∧ t.at? place = some entry := by
  unfold find
  rw [bind_ok]
  constructor
  · rintro ⟨finish, resolved, looked⟩
    split at looked
    · rename_i found
      cases looked
      exact ⟨resolved, found⟩
    · cases looked
  · rintro ⟨resolved, found⟩
    exact ⟨place, resolved, by rw [found]⟩

theorem parts_kept {parts : List String} (plain : parts.head? ≠ some "") : parts.dropWhile (·.isEmpty) = parts := by
  cases parts with
  | nil => rfl
  | cons part parts =>
    have full : part.isEmpty = false := by simpa using plain
    rw [List.dropWhile_cons, full]
    rfl

theorem write_ok (wrote : t.write path content = .ok next) :
    ∃ place, t.resolve path = .ok place ∧ t.at? place ≠ some .directory ∧ next = t.put place (.file content) := by
  unfold write at wrote
  split at wrote
  · cases wrote
  · rename_i filled
    obtain ⟨place, walked, settled⟩ := bind_ok.mp wrote
    have outcome : t.at? place ≠ some .directory ∧ (steps path).reverse.head? ≠ some "" ∧
        next = t.put place (.file content) := by
      cases found : t.at? place with
      | none =>
        simp only [found] at settled
        split at settled
        · cases settled
        · rename_i plain
          cases settled
          exact ⟨by simp, by simpa using plain, rfl⟩
      | some entry =>
        cases entry with
        | directory => rw [found] at settled; cases settled
        | file old =>
          simp only [found] at settled
          split at settled
          · cases settled
          · rename_i plain
            cases settled
            exact ⟨by simp, by simpa using plain, rfl⟩
    obtain ⟨free, plain, made⟩ := outcome
    rw [parts_kept plain, List.reverse_reverse] at walked
    exact ⟨place, by rw [resolve, if_neg filled]; exact walked, free, made⟩

theorem write_find (wrote : t.write path content = .ok next) :
    ∃ place, next.find path = .ok (place, .file content) := by
  obtain ⟨place, resolved, free, rfl⟩ := write_ok wrote
  exact ⟨place, find_ok.mpr ⟨(put_keeps t place _).resolve resolved, put_same free⟩⟩

theorem write_keeps (wrote : t.write path content = .ok next)
    (found : t.find name = .ok (other, entry)) (apart : t.resolve path ≠ .ok other) :
    next.find name = .ok (other, entry) := by
  obtain ⟨place, resolved, _, rfl⟩ := write_ok wrote
  obtain ⟨there, held⟩ := find_ok.mp found
  have differ : other ≠ place := by
    intro same
    exact apart (same ▸ resolved)
  exact find_ok.mpr ⟨(put_keeps t place _).resolve there, by rw [put_other differ]; exact held⟩

end BenchCharts.Files.Tree
