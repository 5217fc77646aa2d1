import BenchCharts.Proofs.Dataset.Latest
import BenchCharts.Proofs.Files.Directory
import BenchCharts.Proofs.Plot.Charts
import BenchCharts.Proofs.Text.Utf8
import Mathlib.Data.List.Sort

namespace BenchCharts
open Files Text

namespace Dataset

variable {t u : Tree} {base : Place} {directory name file path : String} {found : List String}

theorem drawing_no_output (name stem : String) : ¬isOutput name (stem ++ ".svg") = true := by
  intro output
  obtain ⟨front, same⟩ := output_ending output
  rw [String.toList_append] at same
  have equal : ending = ".svg".toList := (List.append_inj' same (by decide)).2
  exact absurd equal (by decide)

-- The files of a dataset are the outputs right below the directory, in strict order.
theorem files_at (name : String) (resolved : t.resolve directory = .ok base)
    (entered : t.at? base = some .directory) : ∃ found,
      files t directory name = .ok found ∧ found.Pairwise (· < ·) ∧
      ∀ file, file ∈ found ↔ isOutput name file = true ∧ (t.at? (base ++ [Utf8.encode file])).isSome = true := by
  obtain ⟨listed, given, unique, below⟩ := Tree.list_at resolved entered
  have seen : fileNames t directory = .ok ((listed.filterMap Utf8.text?).mergeSort fun a b => a ≤ b) := by
    unfold fileNames
    rw [given]
  have texts : (listed.filterMap Utf8.text?).Nodup := by
    refine List.Pairwise.filterMap _ ?_ unique
    rintro one two differ text here other there rfl
    exact differ ((Utf8.text_exact.mp here).trans (Utf8.text_exact.mp there).symm)
  have sorted := sorted_by id (listed.filterMap Utf8.text?)
  have ascending := ascending_of_unique sorted ((List.mergeSort_perm _ _).nodup_iff.mpr texts)
  refine ⟨_, by rw [files_eq, seen]; rfl, ascending.filter _, ?_⟩
  intro file
  rw [List.mem_filter, List.mem_mergeSort, List.mem_filterMap, ← below, and_comm]
  simp [Utf8.text_exact]

theorem files_listed (listed : files t directory name = .ok found) : ∃ names, t.list directory = .ok names := by
  rw [files_eq] at listed
  obtain ⟨_, seen, _⟩ := map_ok.mp listed
  unfold fileNames at seen
  split at seen
  · cases seen
  · rename_i names given
    exact ⟨names, given⟩

-- Another tree with the same directories and the same outputs of a dataset.
structure Untouched (name : String) (t u : Tree) : Prop where
  keeps : Tree.Keeps t u
  outputs : ∀ above file, isOutput name file = true →
    u.at? (above ++ [Utf8.encode file]) = t.at? (above ++ [Utf8.encode file])

variable (untouched : Untouched name t u)

include untouched

theorem files_untouched {listed : List Name} (given : t.list directory = .ok listed) :
    files u directory name = files t directory name := by
  obtain ⟨base, resolved, entered⟩ := Tree.list_found given
  obtain ⟨found, one, ascending, below⟩ := files_at name resolved entered
  obtain ⟨others, two, ascending', below'⟩ := files_at name
    (untouched.keeps.resolve resolved) (untouched.keeps.directories base entered)
  rw [one, two, ascending'.eq_of_mem_iff ascending]
  intro file
  rw [below, below']
  refine and_congr_right ?_
  intro output
  rw [untouched.outputs base file output]

theorem find_untouched {names : List Name} (unbroken : '/' ∉ name.toList) (given : t.list directory = .ok names)
    (output : isOutput name file = true) : u.find (joinPath directory file) = t.find (joinPath directory file) := by
  obtain ⟨base, resolved, entered⟩ := Tree.list_found given
  have leads := Tree.leads_of_resolve resolved entered
  have plain := output_plain unbroken output
  rw [leads.find plain, (leads.kept untouched.keeps).find plain, untouched.outputs base file output]

theorem latestOutput_untouched {names : List Name} (given : t.list directory = .ok names) :
    latestOutput u directory name = latestOutput t directory name := by
  unfold latestOutput outputs
  rw [files_untouched untouched given]

theorem load_untouched (unbroken : '/' ∉ name.toList) (located : (latestOutput t directory name).result = .ok path) :
    Table.load u path = Table.load t path := by
  obtain ⟨found, listed, _⟩ := latestOutput_ok.mp located
  obtain ⟨latest, member, rfl, _⟩ := latestOutput_last listed located
  obtain ⟨names, given⟩ := files_listed listed
  unfold Table.load
  rw [find_untouched untouched unbroken given (files_output listed member)]

end Dataset

namespace Plot

variable {t u : Tree} {dataDir : String}

theorem dataset_unbroken (p : Plot) : '/' ∉ p.dataset.toList := by
  cases p <;> simp [dataset]

theorem summarise_untouched {p : Plot} (untouched : Dataset.Untouched p.dataset t u) {names : List Name}
    (given : t.list dataDir = .ok names) : p.summarise dataDir u = p.summarise dataDir t := by
  unfold summarise
  rw [Dataset.latestOutput_untouched untouched given]
  refine Logged.bind_same ?_
  intro path located
  rw [Dataset.load_untouched untouched p.dataset_unbroken (Logged.mapError_ok.mp located)]

theorem summarise_listed {p : Plot} {path : String} {charts : List BarChart}
    (charted : (p.summarise dataDir t).result = .ok (path, charts)) : ∃ names, t.list dataDir = .ok names := by
  obtain ⟨_, located, _⟩ := summarise_ok charted
  obtain ⟨found, listed, _⟩ := Dataset.latestOutput_ok.mp located
  exact Dataset.files_listed listed

end Plot
end BenchCharts
