import BenchCharts.Proofs.Files.Tree

namespace BenchCharts.Files
open Text

variable {directory file : String} {cs : List Char}

-- A name that is one step of a path and stays where it is put.
structure Plain (file : String) : Prop where
  unbroken : '/' ∉ file.toList
  full : file ≠ ""
  named : file ≠ "." ∧ file ≠ ".."

instance (file : String) : Decidable (Plain file) :=
  decidable_of_iff ('/' ∉ file.toList ∧ file ≠ "" ∧ file ≠ "." ∧ file ≠ "..")
    ⟨fun ⟨unbroken, full, named⟩ => ⟨unbroken, full, named⟩, fun plain => ⟨plain.unbroken, plain.full, plain.named⟩⟩

theorem ends_slash (directory : String) : directory.endsWith "/" ↔ ['/'] <:+ directory.toList := by
  rw [← String.endsWith_toSlice, String.Slice.endsWith_string_iff, String.copy_toSlice]
  rfl

theorem splitSlash_unbroken (unbroken : '/' ∉ cs) : splitSlash cs = [cs] := by
  induction cs with
  | nil => rfl
  | cons c cs ih =>
    have here : c ≠ '/' := fun same => unbroken (same ▸ List.mem_cons_self)
    have rest := ih fun later => unbroken (List.mem_cons_of_mem _ later)
    rw [splitSlash, if_neg here, rest]

theorem splitSlash_filled (cs : List Char) : splitSlash cs ≠ [] := by
  cases cs with
  | nil => nofun
  | cons c cs =>
    rw [splitSlash]
    split
    · nofun
    · split <;> nofun

theorem splitSlash_append (xs ys : List Char) : splitSlash (xs ++ '/' :: ys) = splitSlash xs ++ splitSlash ys := by
  induction xs with
  | nil => rfl
  | cons c xs ih =>
    by_cases slash : c = '/'
    · rw [List.cons_append, splitSlash, if_pos slash, splitSlash, if_pos slash, ih]
      rfl
    · obtain ⟨part, parts, split⟩ := List.exists_cons_of_ne_nil (splitSlash_filled xs)
      rw [List.cons_append, splitSlash, if_neg slash, splitSlash, if_neg slash, ih, split]
      rfl

theorem steps_slash (xs : List Char) : steps (String.ofList (xs ++ ['/'])) = (splitSlash xs).map .ofList ++ [""] := by
  rw [steps, String.toList_ofList, splitSlash_append, List.map_append]
  rfl

theorem starts_slash {path : String} : path.startsWith "/" = true ↔ ['/'] <+: path.toList :=
  String.startsWith_string_iff

theorem Plain.relative (plain : Plain file) : ¬file.startsWith "/" = true := by
  intro slash
  exact plain.unbroken ((starts_slash.mp slash).subset List.mem_cons_self)

-- A slash at the end of the directory is no step of its own.
theorem steps_joinPath (directory : String) : ∃ before, (steps directory = before ∨ steps directory = before ++ [""]) ∧
    ∀ path, ¬path.startsWith "/" = true → steps (joinPath directory path) = before ++ steps path := by
  have behind : ∀ (xs : List Char) (path : String), (splitSlash (xs ++ '/' :: path.toList)).map String.ofList =
      (splitSlash xs).map .ofList ++ steps path := by
    intro xs path
    rw [splitSlash_append, List.map_append]
    rfl
  by_cases empty : directory.isEmpty
  · refine ⟨[], .inr ?_, ?_⟩
    · rw [String.isEmpty_iff.mp empty]
      rfl
    · intro path relative
      rw [joinPath, if_neg relative, if_pos empty]
      rfl
  · by_cases slash : directory.endsWith "/"
    · obtain ⟨xs, same⟩ := (ends_slash directory).mp slash
      have whole : directory = String.ofList (xs ++ ['/']) := by rw [same, String.ofList_toList]
      refine ⟨(splitSlash xs).map .ofList, .inr (by rw [whole, steps_slash]), ?_⟩
      intro path relative
      rw [joinPath, if_neg relative, if_neg empty, if_pos slash, steps, String.toList_append, ← same]
      simpa using behind xs path
    · refine ⟨(splitSlash directory.toList).map .ofList, .inl rfl, ?_⟩
      intro path relative
      rw [joinPath, if_neg relative, if_neg empty, if_neg slash, steps]
      simpa using behind directory.toList path

theorem steps_plain (plain : Plain file) : steps file = [file] := by
  rw [steps, splitSlash_unbroken plain.unbroken, List.map_singleton, String.ofList_toList]

theorem steps_file (directory : String) : ∃ before, (steps directory = before ∨ steps directory = before ++ [""]) ∧
    ∀ file, Plain file → steps (joinPath directory file) = before ++ [file] := by
  obtain ⟨before, ending, split⟩ := steps_joinPath directory
  exact ⟨before, ending, fun file plain => by rw [split file plain.relative, steps_plain plain]⟩

theorem Plain.onward (plain : Plain file) : isIdle file = false := by
  simp [isIdle, plain.full, plain.named.1]

theorem fileName_joinPath (plain : Plain file) : fileName (joinPath directory file) = file := by
  obtain ⟨before, _, split⟩ := steps_file directory
  rw [fileName, split file plain, List.reverse_concat, List.dropWhile_cons, plain.onward]
  exact if_neg plain.named.2

theorem joinPath_injective {one two : String} (plain : Plain one) (plain' : Plain two)
    (same : joinPath directory one = joinPath directory two) : one = two := by
  obtain ⟨before, _, split⟩ := steps_file directory
  have equal := congrArg steps same
  rw [split one plain, split two plain'] at equal
  simpa using equal

theorem joinPath_starts (relative : ¬file.startsWith "/" = true) :
    (joinPath directory file).startsWith "/" = directory.startsWith "/" := by
  rw [Bool.eq_iff_iff, joinPath, if_neg relative]
  split
  · rename_i empty
    rw [String.isEmpty_iff.mp empty]
    exact iff_of_false relative (by decide)
  · rename_i filled
    have long : ∀ more, ['/'] <+: directory.toList ++ more ↔ ['/'] <+: directory.toList := by
      intro more
      have some : directory.toList ≠ [] := by simpa using filled
      obtain ⟨c, cs, same⟩ := List.exists_cons_of_ne_nil some
      rw [same]
      simp
    split
    · rw [starts_slash, starts_slash, String.toList_append, long]
    · rw [starts_slash, starts_slash, String.toList_append, String.toList_append, List.append_assoc, long]

theorem joinPath_filled (plain : Plain file) : (joinPath directory file).isEmpty = false := by
  obtain ⟨before, _, split⟩ := steps_file directory
  rw [Bool.eq_false_iff]
  intro empty
  have steps := split file plain
  rw [String.isEmpty_iff.mp empty] at steps
  have last : ([""] : List String).getLast? = (before ++ [file]).getLast? := congrArg List.getLast? steps
  rw [List.getLast?_concat] at last
  exact plain.full (Option.some.inj last).symm

namespace Tree

variable {t : Tree} {place : Place} {names : List String}

theorem walk_append {start : Place} {others : List String} :
    t.walk start (names ++ others) = t.walk start names >>= fun middle => t.walk middle others := by
  induction names generalizing start with
  | nil => rfl
  | cons name names ih =>
    show (t.step start name >>= fun next => t.walk next (names ++ others)) = _
    cases stepped : t.step start name with
    | error obstacle => simp [walk, stepped, bind, Except.bind]
    | ok next => simpa [walk, stepped, bind, Except.bind] using ih

theorem step_plain {start : Place} (plain : Plain file) (entered : t.at? start = some .directory) :
    t.step start file = .ok (start ++ [Utf8.encode file]) := by
  unfold step
  rw [entered]
  dsimp only
  rw [if_neg (by simp [plain.full, plain.named.1]), if_neg plain.named.2]

-- The path of a directory that is there: its files are right below the place.
structure Leads (t : Tree) (directory : String) (base : Place) : Prop where
  entered : t.at? base = some .directory
  file : ∀ file, Plain file → t.resolve (joinPath directory file) = .ok (base ++ [Utf8.encode file])

theorem origin_joinPath (relative : ¬file.startsWith "/" = true) :
    t.origin (joinPath directory file) = t.origin directory := by
  rw [origin, joinPath_starts relative]
  rfl

theorem resolve_below {before : List String} {base : Place} (split : steps (joinPath directory file) = before ++ [file])
    (plain : Plain file) (walked : t.walk (t.origin directory) before = .ok base) (entered : t.at? base = some .directory) :
    t.resolve (joinPath directory file) = .ok (base ++ [Utf8.encode file]) := by
  rw [resolve, joinPath_filled plain, if_neg Bool.false_ne_true, origin_joinPath plain.relative, split, walk_append]
  exact bind_ok.mpr ⟨base, walked, bind_ok.mpr ⟨_, step_plain plain entered, rfl⟩⟩

-- If a file of a directory leads somewhere, all of them do.
theorem leads_of_file (plain : Plain file) (resolved : t.resolve (joinPath directory file) = .ok place) :
    ∃ base, Leads t directory base ∧ place = base ++ [Utf8.encode file] := by
  obtain ⟨before, _, split⟩ := steps_file directory
  have found := resolved
  rw [resolve, joinPath_filled plain, if_neg Bool.false_ne_true, origin_joinPath plain.relative, split file plain,
    walk_append] at resolved
  obtain ⟨base, walked, last⟩ := bind_ok.mp resolved
  obtain ⟨finish, stepped, done⟩ := bind_ok.mp last
  have entered := step_entered stepped
  refine ⟨base, ⟨entered, fun other plain' => resolve_below (split other plain') plain' walked entered⟩, ?_⟩
  exact Except.ok.inj (found.symm.trans (resolve_below (split file plain) plain walked entered))

theorem walk_slash {start base : Place} {before : List String} (ending : names = before ∨ names = before ++ [""])
    (walked : t.walk start names = .ok base) : t.walk start before = .ok base := by
  rcases ending with same | slash
  · rw [← same]
    exact walked
  · rw [slash, walk_append] at walked
    obtain ⟨middle, early, last⟩ := bind_ok.mp walked
    obtain ⟨finish, stepped, done⟩ := bind_ok.mp last
    have directory := step_entered stepped
    rw [early]
    unfold step at stepped
    rw [directory] at stepped
    cases stepped
    exact done

theorem leads_of_walk {base : Place} (walked : t.walk (t.origin directory) (steps directory) = .ok base)
    (entered : t.at? base = some .directory) : Leads t directory base := by
  obtain ⟨before, ending, split⟩ := steps_file directory
  exact ⟨entered, fun file plain => resolve_below (split file plain) plain (walk_slash ending walked) entered⟩

-- Behind the absolute path of the working directory a path leads where it leads alone.
theorem resolve_absolute {path : String} (absolute : directory.startsWith "/" = true)
    (resolved : t.resolve directory = .ok t.here) (filled : ¬path.isEmpty = true)
    (relative : ¬path.startsWith "/" = true) : t.resolve (joinPath directory path) = t.resolve path := by
  obtain ⟨before, ending, split⟩ := steps_joinPath directory
  have slashed : (joinPath directory path).startsWith "/" = true := (joinPath_starts relative).trans absolute
  have written : ¬(joinPath directory path).isEmpty = true := by
    intro empty
    rw [String.isEmpty_iff.mp empty] at slashed
    exact absurd slashed (by decide)
  unfold resolve at resolved ⊢
  split at resolved
  · cases resolved
  · have walked := walk_slash ending resolved
    rw [if_neg written, if_neg filled, origin_joinPath relative, split path relative, walk_append, walked, origin,
      if_neg relative]
    rfl

example : let t := (Tree.empty.plant [Utf8.encode "home", Utf8.encode "data"] .directory).enter [Utf8.encode "home"]
    (t.resolve "/home/data").toOption = (t.resolve "data").toOption := by decide +kernel

theorem Leads.kept {u : Tree} {base : Place} (leads : Leads t directory base) (keeps : Keeps t u) :
    Leads u directory base :=
  ⟨keeps.directories base leads.entered, fun file plain => keeps.resolve (leads.file file plain)⟩

theorem Leads.find {base : Place} (leads : Leads t directory base) (plain : Plain file) :
    t.find (joinPath directory file) =
      match t.at? (base ++ [Utf8.encode file]) with
      | some entry => .ok (base ++ [Utf8.encode file], entry)
      | none => .error .missing := by
  unfold Tree.find
  rw [leads.file file plain]
  rfl

theorem encode_injective {one two : String} (same : Utf8.encode one = Utf8.encode two) : one = two := by
  have bytes : one.toList.utf8Encode = two.toList.utf8Encode := by
    unfold List.utf8Encode
    exact congrArg List.toByteArray same
  rw [String.utf8Encode_toList, String.utf8Encode_toList] at bytes
  exact String.toByteArray_inj.mp bytes

theorem place_injective {base : Place} {one two : String}
    (same : base ++ [Utf8.encode one] = base ++ [Utf8.encode two]) : one = two := by
  have last : Utf8.encode one = Utf8.encode two := by simpa using same
  exact encode_injective last

-- Writing one file of a directory leaves the others.
theorem write_beside {next : Tree} {content : Content} {entry : Entry} {other : String} (plain : Plain file)
    (plain' : Plain other) (differ : file ≠ other) (wrote : t.write (joinPath directory file) content = .ok next)
    (found : t.find (joinPath directory other) = .ok (place, entry)) :
    next.find (joinPath directory other) = .ok (place, entry) := by
  obtain ⟨base, leads, there⟩ := leads_of_file plain' (find_ok.mp found).1
  refine write_keeps wrote found ?_
  intro resolved
  have same := (leads.file file plain).symm.trans resolved
  rw [there] at same
  exact differ (place_injective (Except.ok.inj same))

end Tree
end BenchCharts.Files
