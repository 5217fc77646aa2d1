import BenchCharts.Proofs.Entries
import BenchCharts.Summary
import Mathlib.Data.List.Induction

namespace BenchCharts.Groups

variable {α : Type} {named : List (String × α)} {name : String} {values : List α}

-- Values of a name, read off the pairs themselves.
def valuesOf (named : List (String × α)) (name : String) : List α := (named.filter (·.1 == name)).map (·.2)

theorem valuesOf_concat (named : List (String × α)) (last name : String) (value : α) :
    valuesOf (named ++ [(last, value)]) name = valuesOf named name ++ if last = name then [value] else [] := by
  unfold valuesOf
  by_cases same : last = name <;> simp [same]

theorem keys_enter (name : String) (value : α) (groups : List (String × List α)) :
    (enter name value groups).map (·.1) =
      if name ∈ groups.map (·.1) then groups.map (·.1) else groups.map (·.1) ++ [name] := by
  induction groups with
  | nil => simp [enter]
  | cons group rest ih =>
    obtain ⟨other, values⟩ := group
    unfold enter
    by_cases same : other = name
    · simp [same]
    · have differ : ¬name = other := fun equal => same equal.symm
      rw [if_neg same, List.map_cons, ih]
      by_cases member : name ∈ rest.map (·.1) <;> simp_all

theorem lookup_enter (name other : String) (value : α) (groups : List (String × List α)) :
    (enter name value groups).lookup other =
      if other = name then some ((groups.lookup name).getD [] ++ [value]) else groups.lookup other := by
  induction groups with
  | nil => by_cases same : other = name <;> simp [enter, same]
  | cons group rest ih =>
    obtain ⟨key, values⟩ := group
    unfold enter
    by_cases hit : key = name
    · subst hit
      cases same : other == key with
      | true => simp [beq_iff_eq.mp same]
      | false => simp only [if_true, List.lookup_cons, same, if_neg (beq_eq_false_iff_ne.mp same)]
    · have miss : (name == key) = false := by simpa using fun equal => hit equal.symm
      rw [if_neg hit, List.lookup_cons, List.lookup_cons, List.lookup_cons, miss, ih]
      by_cases same : other = name
      · subst same
        simp [miss]
      · simp [same]

theorem of_concat (named : List (String × α)) (last : String) (value : α) :
    of (named ++ [(last, value)]) = enter last value (of named) := by
  simp [of]

theorem keys_of (named : List (String × α)) :
    ((of named).map (·.1)).Nodup ∧ ∀ name, name ∈ (of named).map (·.1) ↔ name ∈ named.map (·.1) := by
  induction named using List.reverseRecOn with
  | nil => simp [of]
  | append_singleton named last ih =>
    obtain ⟨last, value⟩ := last
    obtain ⟨unique, keys⟩ := ih
    rw [of_concat, keys_enter]
    split
    · rename_i old
      refine ⟨unique, fun name => ?_⟩
      rw [keys, List.map_append, List.mem_append]
      constructor
      · exact Or.inl
      · intro member
        rcases member with early | here
        · exact early
        · cases List.mem_singleton.mp here
          exact (keys last).mp old
    · rename_i new
      refine ⟨?_, fun name => by rw [List.mem_append, List.map_append, List.mem_append, keys]; rfl⟩
      rw [List.nodup_append]
      refine ⟨unique, by simp, ?_⟩
      intro a member b here same
      exact new (List.mem_singleton.mp here ▸ same ▸ member)

theorem lookup_of (named : List (String × α)) (name : String) :
    ((of named).lookup name).getD [] = valuesOf named name := by
  induction named using List.reverseRecOn with
  | nil => rfl
  | append_singleton named last ih =>
    obtain ⟨last, value⟩ := last
    rw [of_concat, lookup_enter, valuesOf_concat]
    by_cases same : name = last
    · subst same
      simp [ih]
    · have differ : ¬last = name := fun equal => same equal.symm
      simp [same, differ, ih]

theorem mem_of : (name, values) ∈ of named ↔ name ∈ named.map (·.1) ∧ values = valuesOf named name := by
  obtain ⟨unique, keys⟩ := keys_of named
  have here := lookup_of named name
  rw [← keys, ← lookup_entry unique, ← here]
  constructor
  · intro found
    exact ⟨List.mem_map.mpr ⟨_, (lookup_entry unique).mp found, rfl⟩, by rw [found]; rfl⟩
  · intro ⟨member, same⟩
    obtain ⟨⟨other, values'⟩, entered, equal⟩ := List.mem_map.mp member
    cases equal
    rw [same, (lookup_entry unique).mpr entered]
    rfl

end BenchCharts.Groups
