import BenchCharts.Dataset

namespace BenchCharts.Dataset
open Text

structure Digits (field : List Char) : Prop where
  filled : field ≠ []
  digits : ∀ c ∈ field, isDecimalDigit c = true

structure Stamp (count : Nat) (fields : List (List Char)) : Prop where
  counted : fields.length = count
  numbers : ∀ field ∈ fields, Digits field

-- The text of a stamp, with the ending of the file.
def stamped (fields : List (List Char)) : List Char := fields.flatMap ('-' :: ·) ++ ending

variable {count : Nat} {field other cs rest name : List Char} {fields others : List (List Char)}

theorem stamped_cons (field : List Char) (fields : List (List Char)) :
    stamped (field :: fields) = '-' :: (field ++ stamped fields) := by
  simp [stamped]

theorem Stamp.nil : Stamp 0 [] := ⟨rfl, nofun⟩

theorem stamp_cons : Stamp (count + 1) (field :: fields) ↔ Digits field ∧ Stamp count fields := by
  constructor
  · intro stamp
    obtain ⟨first, later⟩ := List.forall_mem_cons.mp stamp.numbers
    exact ⟨first, Nat.succ.inj stamp.counted, later⟩
  · intro ⟨first, stamp⟩
    exact ⟨congrArg (· + 1) stamp.counted, List.forall_mem_cons.mpr ⟨first, stamp.numbers⟩⟩

-- A dash or the dot of the ending comes where a number is over.
theorem stamped_head (fields : List (List Char)) :
    ∃ c rest, stamped fields = c :: rest ∧ isDecimalDigit c = false ∧ c.toNat < '0'.toNat := by
  cases fields with
  | nil => exact ⟨'.', "csv".toList, rfl, by decide⟩
  | cons field fields => exact ⟨'-', field ++ stamped fields, stamped_cons field fields, by decide⟩

theorem takeWhile_field (number : Digits field) :
    (field ++ stamped fields).takeWhile isDecimalDigit = field := by
  obtain ⟨c, rest, same, ended, _⟩ := stamped_head fields
  rw [List.takeWhile_append_of_pos number.digits, same, List.takeWhile_cons, ended]
  simp

theorem dropWhile_field (number : Digits field) :
    (field ++ stamped fields).dropWhile isDecimalDigit = stamped fields := by
  obtain ⟨c, rest, same, ended, _⟩ := stamped_head fields
  rw [List.dropWhile_append_of_pos number.digits, same, List.dropWhile_cons, ended]
  simp

theorem isStamp_exact : isStamp count cs = true ↔ ∃ fields, Stamp count fields ∧ cs = stamped fields := by
  induction count generalizing cs with
  | zero =>
    rw [isStamp, beq_iff_eq]
    constructor
    · intro same
      exact ⟨[], .nil, same⟩
    · intro ⟨fields, stamp, same⟩
      rw [List.length_eq_zero_iff.mp stamp.counted] at same
      exact same
  | succ count ih =>
    constructor
    · intro accepted
      unfold isStamp at accepted
      split at accepted
      · rename_i heads
        cases heads
      · rename_i n cs heads
        cases heads
        obtain ⟨filled, later⟩ := Bool.and_eq_true_iff.mp accepted
        obtain ⟨fields, stamp, same⟩ := ih.mp later
        have first : Digits (cs.takeWhile isDecimalDigit) := by
          refine ⟨by simpa using filled, ?_⟩
          intro c member
          exact List.all_eq_true.mp List.all_takeWhile c member
        refine ⟨_ :: fields, stamp_cons.mpr ⟨first, stamp⟩, ?_⟩
        rw [stamped_cons, ← same, List.takeWhile_append_dropWhile]
      · cases accepted
    · intro ⟨fields, stamp, same⟩
      cases fields with
      | nil => cases stamp.counted
      | cons field fields =>
        obtain ⟨first, later⟩ := stamp_cons.mp stamp
        rw [same, stamped_cons, isStamp, takeWhile_field first, dropWhile_field first, Bool.and_eq_true_iff]
        exact ⟨by simpa using first.filled, ih.mpr ⟨fields, later, rfl⟩⟩

theorem stamped_injective (one : Stamp count fields) (two : Stamp count others)
    (same : stamped fields = stamped others) : fields = others := by
  induction count generalizing fields others with
  | zero => rw [List.length_eq_zero_iff.mp one.counted, List.length_eq_zero_iff.mp two.counted]
  | succ count ih =>
    cases fields with
    | nil => cases one.counted
    | cons field fields =>
      cases others with
      | nil => cases two.counted
      | cons other others =>
        obtain ⟨number, later⟩ := stamp_cons.mp one
        obtain ⟨number', later'⟩ := stamp_cons.mp two
        rw [stamped_cons, stamped_cons] at same
        have behind : field ++ stamped fields = other ++ stamped others := List.tail_eq_of_cons_eq same
        have first := congrArg (List.takeWhile isDecimalDigit) behind
        have rest := congrArg (List.dropWhile isDecimalDigit) behind
        rw [takeWhile_field number, takeWhile_field number'] at first
        rw [dropWhile_field number, dropWhile_field number'] at rest
        rw [first, ih later later' rest]

theorem count_dashes (stamp : Stamp count fields) : (stamped fields).count '-' = count := by
  induction count generalizing fields with
  | zero =>
    rw [List.length_eq_zero_iff.mp stamp.counted]
    decide
  | succ count ih =>
    cases fields with
    | nil => cases stamp.counted
    | cons field fields =>
      obtain ⟨number, later⟩ := stamp_cons.mp stamp
      have dashless : field.count '-' = 0 := by
        refine List.count_eq_zero_of_not_mem ?_
        intro member
        have digit := number.digits '-' member
        revert digit
        decide
      rw [stamped_cons, List.count_cons_self, List.count_append, dashless, ih later, Nat.zero_add]

-- As many dashes follow in either reading, and a stamp begins with one, so nothing is left over.
theorem stamp_whole (one : Stamp (count + 1) fields) (two : Stamp (count + 1) others)
    (same : stamped fields = rest ++ stamped others) : rest = [] := by
  have dashes := congrArg (List.count '-') same
  rw [List.count_append, count_dashes one, count_dashes two] at dashes
  have dashless : rest.count '-' = 0 := by omega
  cases fields with
  | nil => cases one.counted
  | cons field fields =>
    cases rest with
    | nil => rfl
    | cons c rest =>
      rw [stamped_cons, List.cons_append] at same
      have head : '-' = c := List.head_eq_of_cons_eq same
      rw [← head, List.count_cons_self] at dashless
      cases dashless

theorem split_unique (one : Stamp (count + 1) fields) (two : Stamp (count + 1) others)
    (same : cs ++ stamped fields = name ++ stamped others) : cs = name ∧ fields = others := by
  have equal : cs = name := by
    rcases List.append_eq_append_iff.mp same with ⟨rest, longer, ends⟩ | ⟨rest, longer, ends⟩
    · rw [longer, stamp_whole one two ends, List.append_nil]
    · rw [longer, stamp_whole two one ends, List.append_nil]
  rw [equal] at same
  exact ⟨equal, stamped_injective one two (List.append_cancel_left same)⟩

theorem behind_exact : behind? name cs = some rest ↔ cs = name ++ rest := by
  induction name generalizing cs with
  | nil => simp [behind?]
  | cons n name ih =>
    cases cs with
    | nil => simp [behind?]
    | cons c cs =>
      by_cases same : n = c
      · simp [behind?, same, ih]
      · simp [behind?, same, Ne.symm same]

theorem isOutput_exact {name file : String} : isOutput name file = true ↔
    ∃ fields, Stamp stampFields fields ∧ file.toList = name.toList ++ stamped fields := by
  unfold isOutput
  rw [Option.any_eq_true]
  constructor
  · intro ⟨rest, found, accepted⟩
    obtain ⟨fields, stamp, same⟩ := isStamp_exact.mp accepted
    exact ⟨fields, stamp, same ▸ behind_exact.mp found⟩
  · intro ⟨fields, stamp, same⟩
    exact ⟨stamped fields, behind_exact.mpr same, isStamp_exact.mpr ⟨fields, stamp, rfl⟩⟩

-- The fields of a stamp as they are written.
def fieldsIn : Nat → List Char → List (List Char)
  | 0, _ => []
  | count + 1, cs => cs.tail.takeWhile isDecimalDigit :: fieldsIn count (cs.tail.dropWhile isDecimalDigit)

def fieldsOf (name file : String) : List (List Char) := fieldsIn stampFields (file.toList.drop name.toList.length)

theorem fieldsIn_stamped (stamp : Stamp count fields) : fieldsIn count (stamped fields) = fields := by
  induction count generalizing fields with
  | zero => exact (List.length_eq_zero_iff.mp stamp.counted).symm
  | succ count ih =>
    cases fields with
    | nil => cases stamp.counted
    | cons field fields =>
      obtain ⟨number, later⟩ := stamp_cons.mp stamp
      rw [stamped_cons, fieldsIn, List.tail_cons, takeWhile_field number, dropWhile_field number, ih later]

theorem fieldsOf_output {name file : String} (output : isOutput name file = true) :
    Stamp stampFields (fieldsOf name file) ∧ file.toList = name.toList ++ stamped (fieldsOf name file) := by
  obtain ⟨fields, stamp, same⟩ := isOutput_exact.mp output
  have equal : fieldsOf name file = fields := by
    rw [fieldsOf, same, List.drop_left, fieldsIn_stamped stamp]
  rw [equal]
  exact ⟨stamp, same⟩

theorem output_unique {name other file : String} (one : isOutput name file = true)
    (two : isOutput other file = true) : name = other := by
  obtain ⟨fields, stamp, same⟩ := isOutput_exact.mp one
  obtain ⟨others, stamp', same'⟩ := isOutput_exact.mp two
  exact String.toList_inj.mp (split_unique stamp stamp' (same.symm.trans same')).1

-- The shortest name that leaves a stamp is the only one.
theorem nameBefore_exact : nameBefore? cs = some name ↔
    name ≠ [] ∧ '\n' ∉ name ∧ ∃ fields, Stamp stampFields fields ∧ cs = name ++ stamped fields := by
  induction cs generalizing name with
  | nil =>
    constructor
    · nofun
    · intro ⟨filled, _, fields, _, same⟩
      exact absurd (List.append_eq_nil_iff.mp same.symm).1 filled
  | cons c cs ih =>
    constructor
    · intro found
      unfold nameBefore? at found
      split at found
      · cases found
      · rename_i inline
        split at found
        · rename_i accepted
          cases found
          obtain ⟨fields, stamp, same⟩ := isStamp_exact.mp accepted
          exact ⟨List.cons_ne_nil _ _, by simpa using Ne.symm inline, fields, stamp, by rw [same]; rfl⟩
        · obtain ⟨later, found', made⟩ := Option.map_eq_some_iff.mp found
          obtain ⟨_, inline', fields, stamp, same⟩ := ih.mp found'
          rw [← made]
          exact ⟨List.cons_ne_nil _ _, by simpa using ⟨Ne.symm inline, inline'⟩, fields, stamp, by rw [same]; rfl⟩
    · intro ⟨filled, inline, fields, stamp, same⟩
      cases name with
      | nil => exact absurd rfl filled
      | cons d name =>
        obtain ⟨here, behind⟩ := List.cons_eq_cons.mp same
        obtain ⟨first, inline'⟩ := not_or.mp (mt List.mem_cons.mpr inline)
        rw [nameBefore?, if_neg (here ▸ Ne.symm first)]
        cases name with
        | nil =>
          rw [if_pos (isStamp_exact.mpr ⟨fields, stamp, behind⟩), here]
        | cons e name =>
          have early : ¬isStamp stampFields cs = true := by
            intro accepted
            obtain ⟨others, stamp', same'⟩ := isStamp_exact.mp accepted
            have twice : [] ++ stamped others = (e :: name) ++ stamped fields := same'.symm.trans behind
            cases (split_unique stamp' stamp twice).1
          rw [if_neg early, ih.mpr ⟨List.cons_ne_nil _ _, inline', fields, stamp, behind⟩, here]
          rfl

theorem nameOf_exact {name file : String} : nameOf? file = some name ↔
    name ≠ "" ∧ '\n' ∉ name.toList ∧ isOutput name file = true := by
  have filled : name.toList ≠ [] ↔ name ≠ "" := not_congr String.toList_eq_nil_iff
  rw [isOutput_exact, ← filled, ← nameBefore_exact, nameOf?, Option.map_eq_some_iff]
  constructor
  · intro ⟨cs, found, made⟩
    rw [← made, String.toList_ofList]
    exact found
  · intro found
    exact ⟨name.toList, found, String.ofList_toList⟩

end BenchCharts.Dataset
