import BenchCharts.Proofs.Groups
import BenchCharts.Summary

namespace BenchCharts.Aggregation

variable {labels : List String} {label : String} {row : Nat} {groups order : List (String × List Nat)}
  {columns : List (Array Float)}

def rowsOf (labels : List String) (label : String) : List Nat := Groups.valuesOf labels.zipIdx label

theorem keys_rowsByLabel (labels : List String) :
    ((rowsByLabel labels).map (·.1)).Nodup ∧ ∀ label, label ∈ (rowsByLabel labels).map (·.1) ↔ label ∈ labels := by
  have keys := Groups.keys_of labels.zipIdx
  rw [List.zipIdx_map_fst] at keys
  exact keys

theorem mem_rowsByLabel (labels : List String) (label : String) (rows : List Nat) :
    (label, rows) ∈ rowsByLabel labels ↔ label ∈ labels ∧ rows = rowsOf labels label := by
  rw [rowsByLabel, Groups.mem_of, List.zipIdx_map_fst]
  rfl

theorem mem_collect {stats : List Stats} :
    (label, stats) ∈ collect columns groups ↔ ∃ rows, (label, rows) ∈ groups ∧ stats = statsOf columns rows := by
  unfold collect
  rw [List.mem_mergeSort, List.mem_map]
  constructor
  · rintro ⟨⟨other, rows⟩, member, same⟩
    cases same
    exact ⟨rows, member, rfl⟩
  · rintro ⟨rows, member, rfl⟩
    exact ⟨(label, rows), member, rfl⟩

theorem keys_collect (columns : List (Array Float)) (groups : List (String × List Nat)) :
    ((collect columns groups).map (·.1)).Perm (groups.map (·.1)) := by
  unfold collect
  refine ((List.mergeSort_perm _ _).map Prod.fst).trans ?_
  rw [List.map_map]
  exact List.Perm.refl _

theorem collect_pairwise (columns : List (Array Float)) (groups : List (String × List Nat)) :
    (collect columns groups).Pairwise fun a b => a.1 ≤ b.1 :=
  sorted_by Prod.fst _

theorem collect_ascending (unique : (groups.map (·.1)).Nodup) :
    ((collect columns groups).map (·.1)).Pairwise (· < ·) := by
  have different := (keys_collect columns groups).nodup_iff.mpr unique
  exact ascending_of_unique (List.pairwise_map.mpr (collect_pairwise columns groups)) different

-- The groups may come in any order: labels differ, so sorting settles every place.
theorem collect_perm (unique : (groups.map (·.1)).Nodup) (shuffled : order.Perm groups) :
    collect columns order = collect columns groups := by
  have same : (collect columns order).Perm (collect columns groups) := by
    unfold collect
    exact (List.mergeSort_perm _ _).trans ((shuffled.map _).trans (List.mergeSort_perm _ _).symm)
  refine List.Perm.eq_of_pairwise ?_ (collect_pairwise columns order) (collect_pairwise columns groups) same
  rintro ⟨label, stats⟩ ⟨other, others⟩ left right below above
  have equal : label = other := String.le_antisymm below above
  subst equal
  obtain ⟨rows, member, rfl⟩ := mem_collect.mp left
  obtain ⟨rows', member', rfl⟩ := mem_collect.mp right
  have one := (lookup_entry unique).mpr (shuffled.mem_iff.mp member)
  have two := (lookup_entry unique).mpr member'
  rw [one] at two
  cases two
  rfl

theorem collect_labels (columns : List (Array Float)) (labels : List String) :
    collect columns (rowsByLabel labels) = ((collect columns (rowsByLabel labels)).map (·.1)).map fun label =>
      (label, statsOf columns (rowsOf labels label)) := by
  rw [List.map_map]
  refine (List.map_id _).symm.trans (List.map_congr_left ?_)
  rintro ⟨label, stats⟩ member
  obtain ⟨rows, entered, rfl⟩ := mem_collect.mp member
  rw [((mem_rowsByLabel labels label rows).mp entered).2]
  rfl

end BenchCharts.Aggregation
