import BenchCharts.Proofs.Dataset.Outputs

namespace BenchCharts.Dataset
open Files Text

variable {t : Tree} {directory name file other : String} {listed : List Name} {found : List String} {count : Nat}
  {fields others : List (List Char)}

def widths (fields : List (List Char)) : List Nat := fields.map List.length

def matching (listed : List Name) (name : String) : List String :=
  (listed.filterMap Utf8.text?).filter (isOutput name)

theorem mem_matching : file ∈ matching listed name ↔ Utf8.encode file ∈ listed ∧ isOutput name file = true := by
  simp [matching, Utf8.text_exact]

theorem widths_cons (field : List Char) (fields : List (List Char)) :
    widths (field :: fields) = field.length :: widths fields := rfl

theorem earlier_asymm (earlier : Earlier fields others) : ¬Earlier others fields :=
  List.lex_asymm (fun less => Nat.lt_asymm less) earlier

-- By the fields that are left. The first that differs decides in both orders, as it is of one width.
theorem earlier_or_same (one : Stamp count fields) (two : Stamp count others) (ascii : isAscii fields = true)
    (even : widths fields = widths others) (order : ¬Before (stamped others) (stamped fields)) :
    Earlier fields others ∨ fields = others := by
  induction count generalizing fields others with
  | zero =>
    right
    rw [List.length_eq_zero_iff.mp one.counted, List.length_eq_zero_iff.mp two.counted]
  | succ count ih =>
    cases fields with
    | nil => cases one.counted
    | cons field fields =>
      cases others with
      | nil => cases two.counted
      | cons other others =>
        obtain ⟨digits, later⟩ := isAscii_cons ascii
        simp only [widths_cons, List.cons.injEq] at even
        rw [stamped_cons, stamped_cons] at order
        rcases fields_order digits fun rest => order (.cons rest) with before | ⟨same, behind⟩
        · exact .inl (earlier_cons.mpr (.inl (digitsValue_lt digits even.1 before)))
        · subst same
          rcases ih (stamp_cons.mp one).2 (stamp_cons.mp two).2 later even.2 behind with earlier | same
          · exact .inl (earlier_cons.mpr (.inr ⟨rfl, earlier⟩))
          · exact .inr (congrArg _ same)

theorem earlier_of_lt (one : isOutput name file = true) (two : isOutput name other = true)
    (ascii : isAscii (fieldsOf name file) = true) (even : widths (fieldsOf name file) = widths (fieldsOf name other))
    (less : file < other) : Earlier (fieldsOf name file) (fieldsOf name other) := by
  obtain ⟨stamp, text⟩ := fieldsOf_output one
  obtain ⟨stamp', text'⟩ := fieldsOf_output two
  have order := stamped_order one two (Std.le_of_lt less)
  rcases earlier_or_same stamp stamp' ascii even order with earlier | same
  · exact earlier
  · have equal : file = other := by
      apply String.toList_inj.mp
      rw [text, text', same]
    exact absurd equal (Std.ne_of_lt less)

theorem byteSize_even (one : isOutput name file = true) (two : isOutput name other = true)
    (ascii : isAscii (fieldsOf name file) = true) (ascii' : isAscii (fieldsOf name other) = true)
    (even : widths (fieldsOf name file) = widths (fieldsOf name other)) : file.utf8ByteSize = other.utf8ByteSize := by
  have lengths := congrArg List.sum even
  rw [widths, widths, ← List.length_flatten, ← List.length_flatten] at lengths
  rw [byteSize_output one ascii, byteSize_output two ascii', lengths]

theorem differInLength_even (sizes : ∀ file ∈ found, ∀ other ∈ found, file.utf8ByteSize = other.utf8ByteSize) :
    differInLength found = false := by
  cases found with
  | nil => rfl
  | cons first rest =>
    simp only [differInLength, List.any_eq_false, bne_iff_ne, ne_eq, Decidable.not_not]
    intro file member
    exact sizes file (List.mem_cons_of_mem _ member) first List.mem_cons_self

-- A list in which every element is before those behind it tells the order of its elements.
theorem index_lt_iff {before : String → String → Prop} (asymm : ∀ a b, before a b → ¬before b a)
    (ordered : found.Pairwise before) (i j : Fin found.length) : i < j ↔ before (found.get i) (found.get j) := by
  have later : ∀ i j : Fin found.length, i < j → before (found.get i) (found.get j) :=
    fun i j less => List.pairwise_iff_getElem.mp ordered i j i.isLt j.isLt less
  refine ⟨later i j, ?_⟩
  intro earlier
  rcases lt_trichotomy i j with less | same | more
  · exact less
  · subst same
    exact absurd earlier (asymm _ _ earlier)
  · exact absurd earlier (asymm _ _ (later j i more))

theorem outputs_chronological (readable : t.list directory = .ok listed)
    (ascii : ∀ file ∈ matching listed name, isAscii (fieldsOf name file) = true)
    (even : ∀ file ∈ matching listed name, ∀ other ∈ matching listed name,
      widths (fieldsOf name file) = widths (fieldsOf name other)) :
    ∃ found : List String, outputPaths t directory name = ⟨[], .ok (found.map (joinPath directory))⟩ ∧
      (∀ file, file ∈ found ↔ file ∈ matching listed name) ∧
      ∀ i j : Fin found.length,
        i < j ↔ Earlier (fieldsOf name (found.get i)) (fieldsOf name (found.get j)) := by
  obtain ⟨found, given, ascending, members⟩ := mem_files readable name
  have matched : ∀ file, file ∈ found ↔ file ∈ matching listed name :=
    fun file => (members file).trans mem_matching.symm
  have output : ∀ file ∈ found, isOutput name file = true := fun file member => ((members file).mp member).2
  refine ⟨found, ?_, matched, ?_⟩
  · have silent : differInLength found = false := by
      apply differInLength_even
      intro file here other there
      have here' := (matched file).mp here
      have there' := (matched other).mp there
      exact byteSize_even (output file here) (output other there) (ascii file here') (ascii other there')
        (even file here' other there')
    rw [outputPaths, outputs_files given, silent]
    rfl
  · have ordered : found.Pairwise fun file other => Earlier (fieldsOf name file) (fieldsOf name other) := by
      refine ascending.imp_of_mem ?_
      intro file other here there less
      have here' := (matched file).mp here
      exact earlier_of_lt (output file here) (output other there) (ascii file here')
        (even file here' other ((matched other).mp there)) less
    exact index_lt_iff (fun _ _ => earlier_asymm) ordered

-- The second number is of two digits and the others of one.
def evenFiles : List String := ["b-9-02-0-0-0-0.csv", "b-8-10-0-0-0-0.csv"]

theorem outputs_chronological_even : ∃ found : List String,
    outputPaths (dataTree evenFiles) "data" "b" = ⟨[], .ok (found.map (joinPath "data"))⟩ ∧
    (∀ file, file ∈ found ↔ file ∈ evenFiles) ∧
    ∀ i j : Fin found.length, i < j ↔ Earlier (fieldsOf "b" (found.get i)) (fieldsOf "b" (found.get j)) := by
  have held : ((dataTree evenFiles).list "data").toOption = some (evenFiles.map Utf8.encode) := by decide +kernel
  have same : matching (evenFiles.map Utf8.encode) "b" = evenFiles := by decide +kernel
  have alike : ∀ file ∈ evenFiles, isAscii (fieldsOf "b" file) = true ∧
      widths (fieldsOf "b" file) = [1, 2, 1, 1, 1, 1] := by decide +kernel
  rw [← same] at alike
  obtain ⟨found, given, matched, order⟩ := outputs_chronological (toOption_ok.mp held)
    (fun file member => (alike file member).1)
    (fun file here other there => (alike file here).2.trans (alike other there).2.symm)
  rw [same] at matched
  exact ⟨found, given, matched, order⟩

end BenchCharts.Dataset
