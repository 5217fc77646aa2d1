namespace BenchCharts

variable {κ α : Type} [BEq κ] [LawfulBEq κ] {entries : List (κ × α)} {key : κ} {value : α}

theorem find_entry (unique : (entries.map (·.1)).Nodup) (member : (key, value) ∈ entries) :
    entries.find? (·.1 == key) = some (key, value) := by
  induction entries with
  | nil => cases member
  | cons entry rest ih =>
    obtain ⟨first, later⟩ := List.nodup_cons.mp unique
    rcases List.mem_cons.mp member with rfl | old
    · simp
    · have other : (entry.1 == key) = false := by
        rw [beq_eq_false_iff_ne]
        intro same
        exact first (List.mem_map.mpr ⟨_, old, same.symm⟩)
      rw [List.find?_cons, other]
      exact ih later old

theorem find_absent (absent : key ∉ entries.map (·.1)) : entries.find? (·.1 == key) = none := by
  rw [List.find?_eq_none]
  intro entry member same
  exact absent (List.mem_map.mpr ⟨entry, member, by simpa using same⟩)

theorem lookup_find : entries.lookup key = (entries.find? (·.1 == key)).map (·.2) := by
  induction entries with
  | nil => rfl
  | cons entry rest ih =>
    rw [List.lookup_cons, List.find?_cons, ih, BEq.comm]
    cases entry.1 == key <;> rfl

theorem lookup_entry (unique : (entries.map (·.1)).Nodup) :
    entries.lookup key = some value ↔ (key, value) ∈ entries := by
  rw [lookup_find]
  constructor
  · intro found
    obtain ⟨⟨other, given⟩, first, rfl⟩ := Option.map_eq_some_iff.mp found
    have same : other = key := by simpa using List.find?_some first
    exact same ▸ List.mem_of_find?_eq_some first
  · intro member
    rw [find_entry unique member]
    rfl

-- Keys in the same order with the same values under them.
theorem eq_of_lookup {others : List (κ × α)} (unique : (entries.map (·.1)).Nodup)
    (keys : others.map (·.1) = entries.map (·.1)) (same : ∀ key, others.lookup key = entries.lookup key) :
    others = entries := by
  have unique' : (others.map (·.1)).Nodup := keys ▸ unique
  have length : others.length = entries.length := by simpa using congrArg List.length keys
  refine List.ext_getElem length ?_
  intro i inside inside'
  have key : others[i].1 = entries[i].1 := by
    simpa using List.getElem_of_eq keys (show i < (others.map (·.1)).length by simpa using inside)
  have here : others.lookup others[i].1 = some others[i].2 := (lookup_entry unique').mpr (List.getElem_mem inside)
  have there : entries.lookup entries[i].1 = some entries[i].2 := (lookup_entry unique).mpr (List.getElem_mem inside')
  rw [same, key, there] at here
  exact Prod.ext key (Option.some.inj here).symm

theorem sorted_by (key : α → String) (xs : List α) :
    (xs.mergeSort fun a b => key a ≤ key b).Pairwise fun a b => key a ≤ key b := by
  have transitive : ∀ a b c : α, decide (key a ≤ key b) = true → decide (key b ≤ key c) = true →
      decide (key a ≤ key c) = true := by
    intro a b c first second
    simp only [decide_eq_true_eq] at first second ⊢
    exact String.le_trans first second
  have total : ∀ a b : α, (decide (key a ≤ key b) || decide (key b ≤ key a)) = true := by
    intro a b
    simpa using String.le_total (key a) (key b)
  simpa using List.pairwise_mergeSort transitive total xs

theorem ascending_of_unique {texts : List String} (sorted : texts.Pairwise (· ≤ ·)) (unique : texts.Nodup) :
    texts.Pairwise (· < ·) := by
  refine (sorted.and unique).imp ?_
  intro a b ⟨below, differ⟩
  exact Std.lt_of_le_of_ne below differ

end BenchCharts
