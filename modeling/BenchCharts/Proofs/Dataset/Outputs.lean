import BenchCharts.Proofs.Dataset.Stable
import BenchCharts.Proofs.Text.ByteOrder

namespace BenchCharts.Dataset
open Files Text

variable {t u : Tree} {directory name : String} {listed others : List Name} {found : List String}

theorem latestOutput_found (listed : files t directory name = .ok found) :
    (latestOutput t directory name).result = latestOf directory name found := by
  rw [← outputs_result] at listed
  rw [latestOutput, Logged.result_bind, listed]
  change ((Logged.of (latestOf directory name found)) >>= _).result = _
  rw [Logged.result_bind]
  cases latestOf directory name found <;> rfl

-- The names are sorted, so only which they are matters.
theorem fileNames_reordered (one : t.list directory = .ok listed) (two : u.list directory = .ok others)
    (order : others.Perm listed) : fileNames u directory = fileNames t directory := by
  unfold fileNames
  rw [one, two]
  apply congrArg Except.ok
  apply List.Perm.eq_of_pairwise (fun a b _ _ => String.le_antisymm) (sorted_by id _) (sorted_by id _)
  exact (List.mergeSort_perm _ _).trans ((order.filterMap _).trans (List.mergeSort_perm _ _).symm)

theorem files_reordered (one : t.list directory = .ok listed) (two : u.list directory = .ok others)
    (order : others.Perm listed) (name : String) : files u directory name = files t directory name := by
  rw [files_eq, files_eq, fileNames_reordered one two order]

theorem outputs_reordered (one : t.list directory = .ok listed) (two : u.list directory = .ok others)
    (order : others.Perm listed) (name : String) : outputs u directory name = outputs t directory name := by
  unfold outputs
  rw [files_reordered one two order]

theorem mem_files (readable : t.list directory = .ok listed) (name : String) : ∃ found,
    files t directory name = .ok found ∧ found.Pairwise (· < ·) ∧
      ∀ file, file ∈ found ↔ Utf8.encode file ∈ listed ∧ isOutput name file = true := by
  obtain ⟨base, resolved, entered⟩ := Tree.list_found readable
  obtain ⟨found, given, ascending, below⟩ := files_at name resolved entered
  obtain ⟨names, listing, _, inside⟩ := Tree.list_at resolved entered
  cases readable.symm.trans listing
  refine ⟨found, given, ascending, ?_⟩
  intro file
  rw [below, inside, and_comm]

theorem below_last {latest : String} (ascending : found.Pairwise (· < ·)) (last : found.getLast? = some latest) :
    ∀ file ∈ found, file ≠ latest → file < latest := by
  obtain ⟨earlier, rfl⟩ := List.getLast?_eq_some_iff.mp last
  obtain ⟨_, _, below⟩ := List.pairwise_append.mp ascending
  intro file member differ
  rcases List.mem_append.mp member with early | here
  · exact below file early latest List.mem_cons_self
  · exact absurd (List.mem_singleton.mp here) differ

theorem last_greatest {latest : String} (ascending : found.Pairwise (· < ·)) (member : latest ∈ found)
    (above : ∀ file ∈ found, file ≤ latest) : found.getLast? = some latest := by
  have filled := List.ne_nil_of_mem member
  have last := List.getLast?_eq_some_getLast filled
  by_contra differ
  have less := below_last ascending last latest member fun same => differ (by rw [last, same])
  exact String.not_lt.mpr (above _ (List.getLast_mem filled)) less

theorem outputs_exact (readable : t.list directory = .ok listed) (name : String) : ∃ found : List String,
    (outputPaths t directory name).result = .ok (found.map (joinPath directory)) ∧
    (∀ file, file ∈ found ↔ Utf8.encode file ∈ listed ∧
      ∃ fields, Stamp 6 fields ∧ file.toList = name.toList ++ stamped fields) ∧
    (found.map Utf8.encode).Pairwise (· < ·) ∧
    ((latestOutput t directory name).result = .error (.notFound name directory) ↔ found = []) ∧
    (found ≠ [] → ∃ latest ∈ found, (latestOutput t directory name).result = .ok (joinPath directory latest) ∧
      ∀ file ∈ found, file ≠ latest → Utf8.encode file < Utf8.encode latest) ∧
    ∀ (u : Tree) (others : List Name), u.list directory = .ok others → others.Perm listed →
      outputPaths u directory name = outputPaths t directory name ∧
      latestOutput u directory name = latestOutput t directory name := by
  obtain ⟨found, given, ascending, members⟩ := mem_files readable name
  have latest := latestOutput_found given
  refine ⟨found, ?_, ?_, ?_, ?_, ?_, ?_⟩
  · rw [outputPaths_result, given]
    rfl
  · intro file
    rw [members, isOutput_exact]
    rfl
  · exact List.pairwise_map.mpr (ascending.imp Utf8.encode_lt.mpr)
  · rw [latest, latestOf, ← List.getLast?_eq_none_iff]
    cases found.getLast? <;> simp
  · intro filled
    have last := List.getLast?_eq_some_getLast filled
    refine ⟨found.getLast filled, List.getLast_mem filled, by rw [latest, latestOf, last], ?_⟩
    intro file member differ
    exact Utf8.encode_lt.mpr (below_last ascending last file member differ)
  · intro u others listing order
    have same := outputs_reordered readable listing order name
    exact ⟨by rw [outputPaths, same]; rfl, by rw [latestOutput, same]; rfl⟩

-- A name that is no text, and one that has a number too many.
def strayTree : Tree := (dataTree sampleFiles).plant [Utf8.encode "data", [0xFF]] (.file (.bytes []))

theorem outputs_exact_stray : ∃ found : List String,
    (outputPaths strayTree "data" "build").result = .ok (found.map (joinPath "data")) ∧
    "build-1-2-3-4-5-6.csv" ∈ found ∧ "build-1-1-2-3-4-5-6.csv" ∉ found ∧
    (found.map Utf8.encode).Pairwise (· < ·) := by
  have held : (strayTree.list "data").toOption = some (sampleFiles.map Utf8.encode ++ [[0xFF]]) := by decide +kernel
  obtain ⟨found, given, members, ascending, _⟩ := outputs_exact (toOption_ok.mp held) "build"
  refine ⟨found, given, ?_, ?_, ascending⟩
  · exact (members _).mpr ⟨by decide +kernel, isOutput_exact.mp (by decide +kernel)⟩
  · intro member
    have output := isOutput_exact.mpr ((members _).mp member).2
    exact absurd output (by decide +kernel)

end BenchCharts.Dataset
