import BenchCharts.Proofs.Dataset.Name
import BenchCharts.Proofs.Files.Path
import BenchCharts.Proofs.Groups
import BenchCharts.Proofs.Work
import BenchCharts.Report.Basic

namespace BenchCharts.Dataset
open Files

variable {t : Tree} {directory name file path : String} {listed found : List String}

theorem outputs_result (t : Tree) (directory name : String) :
    (outputs t directory name).result = files t directory name := by
  unfold outputs
  rw [Logged.result_bind]
  show (files t directory name).bind _ = _
  cases files t directory name with
  | error fault => rfl
  | ok found =>
    show Logged.result (if _ then _ else _) = _
    split <;> rfl

theorem outputPaths_result (t : Tree) (directory name : String) :
    (outputPaths t directory name).result = (files t directory name).map (·.map (joinPath directory)) := by
  rw [← outputs_result, outputPaths, Logged.result_bind]
  cases (outputs t directory name).result <;> rfl

theorem latestOutput_ok : (latestOutput t directory name).result = .ok path ↔
    ∃ found, files t directory name = .ok found ∧ latestOf directory name found = .ok path := by
  unfold latestOutput
  rw [Logged.bind_ok, outputs_result]
  constructor
  · intro ⟨found, listed, given⟩
    obtain ⟨path', latest, noted⟩ := Logged.bind_ok.mp given
    cases noted
    exact ⟨found, listed, latest⟩
  · intro ⟨found, listed, latest⟩
    exact ⟨found, listed, Logged.bind_ok.mpr ⟨path, latest, rfl⟩⟩

theorem files_eq (t : Tree) (directory name : String) :
    files t directory name = (fileNames t directory).map fun listed => listed.filter (isOutput name) := by
  unfold files
  cases fileNames t directory <;> rfl

theorem output_ending (output : isOutput name file = true) : ending <:+ file.toList := by
  rw [(fieldsOf_output output).2, stamped, ← List.append_assoc]
  exact List.suffix_append _ _

theorem output_plain (unbroken : '/' ∉ name.toList) (output : isOutput name file = true) : Plain file := by
  obtain ⟨stamp, whole⟩ := fieldsOf_output output
  have behind : '/' ∉ stamped (fieldsOf name file) := by
    intro slash
    rcases List.mem_append.mp slash with number | last
    · obtain ⟨field, member, inside⟩ := List.mem_flatMap.mp number
      rcases List.mem_cons.mp inside with dash | digit
      · cases dash
      · exact absurd ((stamp.numbers field member).digits '/' digit) (by decide)
    · exact absurd last (by decide)
  have long : ∀ short : String, short.toList.length < ending.length → file ≠ short := by
    rintro short few rfl
    exact absurd (output_ending output).length_le (Nat.not_le_of_lt few)
  refine ⟨?_, long "" (by decide), long "." (by decide), long ".." (by decide)⟩
  rw [whole]
  intro slash
  rcases List.mem_append.mp slash with early | late
  · exact unbroken early
  · exact behind late

def entered (directory : String) (listed : List String) : List (String × String) :=
  listed.filterMap fun file => (nameOf? file).map (·, joinPath directory file)

def grouped (directory : String) (listed : List String) : List (String × List String) :=
  (Groups.of (entered directory listed)).mergeSort fun a b => a.1 ≤ b.1

theorem all_eq (t : Tree) (directory : String) :
    all t directory = (fileNames t directory).map (grouped directory) := by
  unfold all
  cases fileNames t directory <;> rfl

theorem mem_entered : name ∈ (entered directory listed).map (·.1) ↔ ∃ file ∈ listed, nameOf? file = some name := by
  simp [entered]

theorem valuesOf_entered (directory : String) (listed : List String) (name : String) :
    Groups.valuesOf (entered directory listed) name =
      (listed.filter (nameOf? · == some name)).map (joinPath directory) := by
  induction listed with
  | nil => rfl
  | cons file listed ih =>
    unfold entered Groups.valuesOf at ih ⊢
    cases inferred : nameOf? file with
    | none => simpa [inferred] using ih
    | some other => by_cases same : other = name <;> simpa [inferred, same] using ih

theorem grouped_perm (directory : String) (listed : List String) :
    (grouped directory listed).Perm (Groups.of (entered directory listed)) :=
  List.mergeSort_perm _ _

theorem keys_grouped (directory : String) (listed : List String) :
    ((grouped directory listed).map (·.1)).Pairwise (· < ·) := by
  have unique := ((grouped_perm directory listed).map (·.1)).nodup_iff.mpr (Groups.keys_of (entered directory listed)).1
  exact ascending_of_unique (List.pairwise_map.mpr (sorted_by Prod.fst _)) unique

theorem mem_grouped {paths : List String} : (name, paths) ∈ grouped directory listed ↔
    (∃ file ∈ listed, nameOf? file = some name) ∧
      paths = (listed.filter (nameOf? · == some name)).map (joinPath directory) := by
  rw [(grouped_perm directory listed).mem_iff, Groups.mem_of, mem_entered, valuesOf_entered]

theorem filter_nameOf (filled : name ≠ "") (inline : '\n' ∉ name.toList) (listed : List String) :
    listed.filter (nameOf? · == some name) = listed.filter (isOutput name) := by
  refine List.filter_congr ?_
  intro file _
  rw [Bool.eq_iff_iff, beq_iff_eq, nameOf_exact]
  exact ⟨fun ⟨_, _, output⟩ => output, fun output => ⟨filled, inline, output⟩⟩

-- A dataset is there under its name with all its outputs, and has some.
theorem grouped_dataset {paths : List String} (member : (name, paths) ∈ grouped directory listed) :
    name ≠ "" ∧ '\n' ∉ name.toList ∧ listed.filter (isOutput name) ≠ [] ∧
      paths = (listed.filter (isOutput name)).map (joinPath directory) := by
  obtain ⟨⟨file, seen, inferred⟩, same⟩ := mem_grouped.mp member
  obtain ⟨filled, inline, output⟩ := nameOf_exact.mp inferred
  rw [filter_nameOf filled inline] at same
  exact ⟨filled, inline, List.ne_nil_of_mem (List.mem_filter.mpr ⟨seen, output⟩), same⟩

theorem grouped_lookup (filled : name ≠ "") (inline : '\n' ∉ name.toList) : (grouped directory listed).lookup name =
    if listed.filter (isOutput name) = [] then none
    else some ((listed.filter (isOutput name)).map (joinPath directory)) := by
  have unique : ((grouped directory listed).map (·.1)).Nodup := (keys_grouped directory listed).imp Std.ne_of_lt
  split
  · rename_i empty
    rw [lookup_find, find_absent]
    · rfl
    · intro member
      obtain ⟨⟨other, paths⟩, dataset, same⟩ := List.mem_map.mp member
      cases same
      obtain ⟨_, _, occupied, _⟩ := grouped_dataset dataset
      exact occupied empty
  · rename_i occupied
    obtain ⟨file, member⟩ := List.exists_mem_of_ne_nil _ occupied
    obtain ⟨seen, output⟩ := List.mem_filter.mp member
    rw [← filter_nameOf filled inline]
    exact (lookup_entry unique).mpr
      (mem_grouped.mpr ⟨⟨file, seen, nameOf_exact.mpr ⟨filled, inline, output⟩⟩, rfl⟩)

theorem fileLines_last (earlier : List String) (latest : String) : Report.fileLines (earlier ++ [latest]) =
    String.join (earlier.map fun path => "  " ++ fileName path ++ "\n") ++ ("  " ++ fileName latest ++ " (latest)\n") := by
  induction earlier with
  | nil => simp [Report.fileLines]
  | cons path earlier ih =>
    have step : Report.fileLines (path :: (earlier ++ [latest])) =
        "  " ++ fileName path ++ "\n" ++ Report.fileLines (earlier ++ [latest]) := by
      cases earlier <;> rfl
    rw [List.cons_append, step, ih, List.map_cons, String.join_cons]
    simp only [String.append_assoc]

-- A name without a slash is printed as it stands in the directory.
theorem fileLines_outputs {earlier : List String} {latest : String} (unbroken : '/' ∉ name.toList)
    (outputs : ∀ file ∈ earlier ++ [latest], isOutput name file = true) :
    Report.fileLines ((earlier ++ [latest]).map (joinPath directory)) =
      String.join (earlier.map fun file => "  " ++ file ++ "\n") ++ ("  " ++ latest ++ " (latest)\n") := by
  have named : ∀ file ∈ earlier ++ [latest], fileName (joinPath directory file) = file :=
    fun file member => fileName_joinPath (output_plain unbroken (outputs file member))
  obtain ⟨before, last⟩ := List.forall_mem_append.mp named
  rw [List.map_append, List.map_singleton, fileLines_last, List.map_map, last latest List.mem_cons_self]
  congr 2
  exact List.map_congr_left fun file member => by simp [before file member]

theorem outputs_ok : (outputs t directory name).result = .ok found ↔
    ∃ listed, fileNames t directory = .ok listed ∧ listed.filter (isOutput name) = found := by
  rw [outputs_result, files_eq, map_ok]

theorem outputs_apart {other : String} {others : List String} (differ : name ≠ other)
    (one : (outputs t directory name).result = .ok found)
    (two : (outputs t directory other).result = .ok others) : ∀ file ∈ found, file ∉ others := by
  obtain ⟨listed, _, rfl⟩ := outputs_ok.mp one
  obtain ⟨_, _, rfl⟩ := outputs_ok.mp two
  intro file member member'
  exact differ (output_unique (List.mem_filter.mp member).2 (List.mem_filter.mp member').2)

theorem latestOutput_dataset {paths : List String} (seen : fileNames t directory = .ok listed)
    (member : (name, paths) ∈ grouped directory listed) :
    ∃ earlier latest, (outputs t directory name).result = .ok (earlier ++ [latest]) ∧
      paths = (earlier ++ [latest]).map (joinPath directory) ∧
      (latestOutput t directory name).result = .ok (joinPath directory latest) := by
  obtain ⟨_, _, occupied, same⟩ := grouped_dataset member
  have split := List.dropLast_concat_getLast occupied
  refine ⟨_, _, outputs_ok.mpr ⟨listed, seen, split.symm⟩, by rw [split, same], ?_⟩
  refine latestOutput_ok.mpr ⟨listed.filter (isOutput name), by rw [files_eq, seen]; rfl, ?_⟩
  rw [latestOf, List.getLast?_eq_some_getLast occupied]

-- Both fail together. Otherwise the datasets hold the outputs of every name that has some, and what
-- is marked in the listing is the latest output.
theorem datasets_list_outputs (t : Tree) (directory : String) :
    (∀ name fault, all t directory = .error fault ↔ (outputPaths t directory name).result = .error fault) ∧
    (∀ name other found others, name ≠ other → (outputs t directory name).result = .ok found →
      (outputs t directory other).result = .ok others → ∀ file ∈ found, file ∉ others) ∧
    ∀ datasets, all t directory = .ok datasets →
      (datasets.map (·.1)).Pairwise (· < ·) ∧
      (∀ name, name ≠ "" → '\n' ∉ name.toList → ∃ found, (outputs t directory name).result = .ok found ∧
        (outputPaths t directory name).result = .ok (found.map (joinPath directory)) ∧
        datasets.lookup name = if found = [] then none else some (found.map (joinPath directory))) ∧
      (∀ config : Config, config.settings.dataDir = directory →
        (Report.listing t config).text = String.join (datasets.map Report.datasetLines)) ∧
      ∀ name paths, (name, paths) ∈ datasets → name ≠ "" ∧ '\n' ∉ name.toList ∧
        ∃ earlier latest, (outputs t directory name).result = .ok (earlier ++ [latest]) ∧
          paths = (earlier ++ [latest]).map (joinPath directory) ∧
          (latestOutput t directory name).result = .ok (joinPath directory latest) ∧
          Report.datasetLines (name, paths) = name ++ ":\n" ++
            (String.join ((earlier.map (joinPath directory)).map fun path => "  " ++ fileName path ++ "\n") ++
              ("  " ++ fileName (joinPath directory latest) ++ " (latest)\n")) ∧
          ('/' ∉ name.toList → Report.datasetLines (name, paths) = name ++ ":\n" ++
            (String.join (earlier.map fun file => "  " ++ file ++ "\n") ++ ("  " ++ latest ++ " (latest)\n"))) := by
  refine ⟨?_, fun _ _ _ _ => outputs_apart, ?_⟩
  · intro name fault
    rw [outputPaths_result, files_eq, all_eq]
    cases fileNames t directory <;> simp [Except.map]
  · intro datasets listing
    rw [all_eq] at listing
    obtain ⟨listed, seen, rfl⟩ := map_ok.mp listing
    refine ⟨keys_grouped directory listed, ?_, ?_, ?_⟩
    · intro name filled inline
      refine ⟨_, outputs_ok.mpr ⟨listed, seen, rfl⟩, ?_, grouped_lookup filled inline⟩
      rw [outputPaths_result, files_eq, seen]
      rfl
    · intro config here
      rw [Report.listing, here, all_eq, seen]
      rfl
    · intro name paths member
      obtain ⟨filled, inline, _, _⟩ := grouped_dataset member
      obtain ⟨earlier, latest, given, same, located⟩ := latestOutput_dataset seen member
      refine ⟨filled, inline, earlier, latest, given, same, located, ?_, ?_⟩
      · rw [Report.datasetLines, same, List.map_append, List.map_singleton, fileLines_last]
      · intro unbroken
        obtain ⟨_, _, found⟩ := outputs_ok.mp given
        rw [Report.datasetLines, same, fileLines_outputs unbroken]
        intro file inside
        rw [← found] at inside
        exact (List.mem_filter.mp inside).2

theorem fileNames_sorted (sorted : listed.Pairwise fun a b => decide (a ≤ b) = true)
    (held : (t.list directory).toOption.map (·.filterMap Text.Utf8.text?) = some listed) :
    fileNames t directory = .ok listed := by
  unfold fileNames
  cases given : t.list directory with
  | error obstacle =>
    rw [given] at held
    cases held
  | ok names =>
    rw [given] at held
    cases held
    exact congrArg Except.ok (List.mergeSort_of_pairwise sorted)

-- Empty files in the directory of the data.
def dataTree (files : List String) : Tree :=
  files.foldl (fun t file => t.plant [Text.Utf8.encode "data", Text.Utf8.encode file] (.file (.bytes []))) .empty

-- The name of one dataset ends in a number, so that its file seems to have seven of them.
def sampleFiles : List String := ["build-1-1-2-3-4-5-6.csv", "build-1-2-3-4-5-6.csv"]

theorem datasets_list_outputs_sample : ∃ datasets, all (dataTree sampleFiles) "data" = .ok datasets ∧
    datasets.lookup "build-1" = some ["data/build-1-1-2-3-4-5-6.csv"] ∧
    datasets.lookup "build" = some ["data/build-1-2-3-4-5-6.csv"] := by
  have seen : fileNames (dataTree sampleFiles) "data" = .ok sampleFiles :=
    fileNames_sorted (by decide +kernel) (by decide +kernel)
  have listing : all (dataTree sampleFiles) "data" = .ok (grouped "data" sampleFiles) := by
    rw [all_eq, seen]
    rfl
  have given : ∀ name, (outputs (dataTree sampleFiles) "data" name).result = .ok (sampleFiles.filter (isOutput name)) :=
    fun name => outputs_ok.mpr ⟨sampleFiles, seen, rfl⟩
  obtain ⟨_, held, _⟩ := (datasets_list_outputs (dataTree sampleFiles) "data").2.2 _ listing
  obtain ⟨one, there, _, looked⟩ := held "build-1" (by decide) (by decide)
  obtain ⟨two, there', _, looked'⟩ := held "build" (by decide) (by decide)
  rw [given] at there there'
  rw [← Except.ok.inj there] at looked
  rw [← Except.ok.inj there'] at looked'
  exact ⟨_, listing, looked.trans (by decide +kernel), looked'.trans (by decide +kernel)⟩

end BenchCharts.Dataset
