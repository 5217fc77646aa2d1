import BenchCharts.Proofs.Dataset.Listing
import BenchCharts.Proofs.Dataset.StampOrder

namespace BenchCharts.Dataset
open Files

variable {t : Tree} {directory name path file latest : String} {found : List String} {cs : List Char}
  {fields : List (List Char)}

theorem outputs_files (listed : files t directory name = .ok found) : outputs t directory name =
    ⟨if differInLength found then [.lengthsDiffer name found] else [], .ok found⟩ := by
  unfold outputs
  rw [listed]
  show Logged.mk ([] ++ Logged.events (if _ then _ else _)) (Logged.result (if _ then _ else _)) = _
  split <;> rfl

theorem even_files (even : differInLength found = false) (member : file ∈ found) (other : latest ∈ found) :
    file.utf8ByteSize = latest.utf8ByteSize := by
  cases found with
  | nil => cases member
  | cons first rest =>
    have sizes : ∀ file ∈ first :: rest, file.utf8ByteSize = first.utf8ByteSize := by
      simpa [differInLength] using even
    rw [sizes file member, sizes latest other]

theorem files_sorted (listed : files t directory name = .ok found) : found.Pairwise (· ≤ ·) := by
  rw [files_eq] at listed
  obtain ⟨names, seen, same⟩ := map_ok.mp listed
  rw [← same]
  refine List.Pairwise.filter _ ?_
  unfold fileNames at seen
  split at seen
  · cases seen
  · cases seen
    exact sorted_by id _

theorem byteSize_ascii (low : ∀ c ∈ cs, c.val ≤ 127) : (String.ofList cs).utf8ByteSize = cs.length := by
  induction cs with
  | nil => rfl
  | cons c cs ih =>
    obtain ⟨first, later⟩ := List.forall_mem_cons.mp low
    rw [String.ofList_cons, String.utf8ByteSize_append, String.utf8ByteSize_singleton, ih later,
      Char.utf8Size_eq_one_iff.mpr first, List.length_cons, Nat.add_comm]

theorem stamped_low (ascii : isAscii fields = true) : ∀ c ∈ stamped fields, c.val ≤ 127 := by
  induction fields with
  | nil =>
    intro c member
    have known : c = '.' ∨ c = 'c' ∨ c = 's' ∨ c = 'v' := by simpa [stamped, ending] using member
    rcases known with rfl | rfl | rfl | rfl <;> decide
  | cons field fields ih =>
    obtain ⟨digits, later⟩ := isAscii_cons ascii
    rw [stamped_cons, List.forall_mem_cons]
    refine ⟨by decide, ?_⟩
    intro c member
    rcases List.mem_append.mp member with here | behind
    · have range : c.val ≥ 48 ∧ c.val ≤ 57 := by simpa [Char.isDigit] using digits c here
      exact UInt32.le_trans range.2 (by decide)
    · exact ih later c behind

theorem length_stamped (fields : List (List Char)) :
    (stamped fields).length = fields.flatten.length + fields.length + ending.length := by
  induction fields with
  | nil => simp [stamped]
  | cons field fields ih =>
    rw [stamped_cons, List.length_cons, List.length_append, ih, List.flatten_cons, List.length_append, List.length_cons]
    omega

theorem byteSize_output (output : isOutput name file = true) (ascii : isAscii (fieldsOf name file) = true) :
    file.utf8ByteSize =
      name.utf8ByteSize + ((fieldsOf name file).flatten.length + stampFields + ending.length) := by
  obtain ⟨stamp, same⟩ := fieldsOf_output output
  have whole : file = name ++ String.ofList (stamped (fieldsOf name file)) := by
    rw [← String.toList_inj, String.toList_append, String.toList_ofList]
    exact same
  rw [whole, String.utf8ByteSize_append, ← whole, byteSize_ascii (stamped_low ascii), length_stamped, stamp.counted]

theorem before_append (cs : List Char) {one two : List Char} (before : Before one two) :
    Before (cs ++ one) (cs ++ two) := by
  induction cs with
  | nil => exact before
  | cons c cs ih => exact .cons ih

theorem before_text {one two : String} : Before one.toList two.toList ↔ one < two := Iff.rfl

theorem stamped_order (one : isOutput name file = true) (two : isOutput name latest = true) (order : file ≤ latest) :
    ¬Before (stamped (fieldsOf name latest)) (stamped (fieldsOf name file)) := by
  intro before
  refine String.not_lt.mpr order (before_text.mp ?_)
  rw [(fieldsOf_output one).2, (fieldsOf_output two).2]
  exact before_append name.toList before

theorem files_output (listed : files t directory name = .ok found) (member : file ∈ found) :
    isOutput name file = true := by
  rw [files_eq] at listed
  obtain ⟨names, _, same⟩ := map_ok.mp listed
  rw [← same] at member
  exact (List.mem_filter.mp member).2

theorem latestOutput_last (listed : files t directory name = .ok found)
    (located : (latestOutput t directory name).result = .ok path) :
    ∃ latest ∈ found, path = joinPath directory latest ∧ ∀ file ∈ found, file ≤ latest := by
  obtain ⟨others, listed', given⟩ := latestOutput_ok.mp located
  cases listed.symm.trans listed'
  unfold latestOf at given
  split at given
  · rename_i latest last
    cases given
    obtain ⟨earlier, rfl⟩ := List.getLast?_eq_some_iff.mp last
    obtain ⟨_, _, below⟩ := List.pairwise_append.mp (files_sorted listed)
    refine ⟨latest, List.mem_append_right _ List.mem_cons_self, rfl, ?_⟩
    intro file member
    rcases List.mem_append.mp member with early | here
    · exact below file early latest List.mem_cons_self
    · cases List.mem_singleton.mp here
      exact String.le_refl _
  · cases given

-- The latest output has the greatest numbers exactly if none overtakes it. Where nothing is reported,
-- an output with greater numbers differs from it in the widths of two fields at least.
theorem latest_greatest_iff (silent : outputs t directory name = ⟨[], .ok found⟩)
    (ascii : ∀ file ∈ found, isAscii (fieldsOf name file) = true)
    (located : (latestOutput t directory name).result = .ok path) :
    ∃ latest ∈ found, path = joinPath directory latest ∧
      ((∀ file ∈ found, ¬Earlier (fieldsOf name latest) (fieldsOf name file)) ↔
        ∀ file ∈ found, ¬Overtakes (fieldsOf name file) (fieldsOf name latest)) ∧
      ∀ file ∈ found, Earlier (fieldsOf name latest) (fieldsOf name file) →
        2 ≤ unevenFields (fieldsOf name file) (fieldsOf name latest) := by
  have listed : files t directory name = .ok found := by
    rw [← outputs_result, silent]
  have even : differInLength found = false := by
    rw [outputs_files listed] at silent
    simpa using congrArg Logged.events silent
  obtain ⟨latest, member, here, below⟩ := latestOutput_last listed located
  have output := files_output listed member
  have stamp := (fieldsOf_output output).1
  have ahead : ∀ file ∈ found, Earlier (fieldsOf name latest) (fieldsOf name file) ↔
      Overtakes (fieldsOf name file) (fieldsOf name latest) := by
    intro file seen
    have order := stamped_order (files_output listed seen) output (below file seen)
    exact earlier_iff_overtakes (fieldsOf_output (files_output listed seen)).1 stamp (ascii file seen) order
  refine ⟨latest, member, here, forall₂_congr fun file seen => not_congr (ahead file seen), ?_⟩
  intro file seen overtaken
  have stamp' := (fieldsOf_output (files_output listed seen)).1
  have sizes := even_files even seen member
  rw [byteSize_output (files_output listed seen) (ascii file seen),
    byteSize_output output (ascii latest member)] at sizes
  refine overtakes_uneven (stamp'.counted.trans stamp.counted.symm) (by omega) ?_
  exact (ahead file seen).mp overtaken

-- Names of one length whose fields differ in width.
def mixedFiles : List String := ["b-10-9-0-0-0-0.csv", "b-9-10-0-0-0-0.csv"]

theorem mixed_silent : outputs (dataTree mixedFiles) "data" "b" = ⟨[], .ok mixedFiles⟩ := by
  have seen : fileNames (dataTree mixedFiles) "data" = .ok mixedFiles :=
    fileNames_sorted (by decide +kernel) (by decide +kernel)
  have listed : files (dataTree mixedFiles) "data" "b" = .ok mixedFiles := by
    rw [files_eq, seen]
    exact congrArg Except.ok (by decide +kernel)
  have even : differInLength mixedFiles = false := by decide +kernel
  rw [outputs_files listed, even]
  rfl

theorem mixed_latest : (latestOutput (dataTree mixedFiles) "data" "b").result = .ok "data/b-9-10-0-0-0-0.csv" := by
  have joined : joinPath "data" "b-9-10-0-0-0-0.csv" = "data/b-9-10-0-0-0-0.csv" := by decide +kernel
  refine latestOutput_ok.mpr ⟨mixedFiles, ?_, congrArg Except.ok joined⟩
  rw [← outputs_result, mixed_silent]

theorem mixed_ascii : ∀ file ∈ mixedFiles, isAscii (fieldsOf "b" file) = true :=
  List.all_eq_true.mp (by decide +kernel)

theorem latest_greatest_iff_mixed : ∃ latest ∈ mixedFiles, "data/b-9-10-0-0-0-0.csv" = joinPath "data" latest ∧
    ((∀ file ∈ mixedFiles, ¬Earlier (fieldsOf "b" latest) (fieldsOf "b" file)) ↔
      ∀ file ∈ mixedFiles, ¬Overtakes (fieldsOf "b" file) (fieldsOf "b" latest)) := by
  obtain ⟨latest, member, here, greatest, _⟩ := latest_greatest_iff mixed_silent mixed_ascii mixed_latest
  exact ⟨latest, member, here, greatest⟩

-- Nothing is reported, and the latest output is not the one with the greatest numbers.
theorem silent_latest_overtaken : outputs (dataTree mixedFiles) "data" "b" = ⟨[], .ok mixedFiles⟩ ∧
    (∀ file ∈ mixedFiles, isAscii (fieldsOf "b" file) = true) ∧
    (latestOutput (dataTree mixedFiles) "data" "b").result = .ok "data/b-9-10-0-0-0-0.csv" ∧
    Earlier (fieldsOf "b" "b-9-10-0-0-0-0.csv") (fieldsOf "b" "b-10-9-0-0-0-0.csv") := by
  have latest : numbers (fieldsOf "b" "b-9-10-0-0-0-0.csv") = [9, 10, 0, 0, 0, 0] := by decide +kernel
  have other : numbers (fieldsOf "b" "b-10-9-0-0-0-0.csv") = [10, 9, 0, 0, 0, 0] := by decide +kernel
  refine ⟨mixed_silent, mixed_ascii, mixed_latest, ?_⟩
  rw [Earlier, latest, other]
  exact .rel (by decide)

end BenchCharts.Dataset
