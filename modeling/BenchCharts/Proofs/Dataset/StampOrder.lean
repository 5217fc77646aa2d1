import BenchCharts.Number.Literal
import BenchCharts.Proofs.Dataset.Name

namespace BenchCharts.Dataset
open Number

variable {count : Nat} {field other : List Char} {fields others : List (List Char)} {c d : Char}

def isAscii (fields : List (List Char)) : Bool := fields.all (·.all Char.isDigit)

def numbers (fields : List (List Char)) : List Nat := fields.map (digitsValue 0)

def Earlier (fields others : List (List Char)) : Prop :=
  List.Lex (fun m n : Nat => m < n) (numbers fields) (numbers others)

def Before (one two : List Char) : Prop := List.Lex (fun c d : Char => c.toNat < d.toNat) one two

-- At the first field that differs the widths differ too, and from there on the first stamp is later.
def Overtakes : List (List Char) → List (List Char) → Prop
  | field :: fields, other :: others =>
    field = other ∧ Overtakes fields others ∨
      field ≠ other ∧ field.length ≠ other.length ∧ Earlier (other :: others) (field :: fields)
  | _, _ => False

def unevenFields (fields others : List (List Char)) : Nat :=
  (fields.zip others).countP fun (field, other) => field.length != other.length

theorem digit_bounds (digit : c.isDigit = true) : '0'.toNat ≤ c.toNat ∧ c.toNat ≤ '0'.toNat + 9 := by
  have range : c.val ≥ 48 ∧ c.val ≤ 57 := by simpa [Char.isDigit] using digit
  exact ⟨UInt32.le_iff_toNat_le.mp range.1, UInt32.le_iff_toNat_le.mp range.2⟩

theorem digitsValue_cons (start : Nat) (c : Char) (field : List Char) :
    digitsValue start (c :: field) = digitsValue (10 * start + (c.toNat - '0'.toNat)) field := by
  unfold digitsValue
  rw [List.foldl_cons]

-- A greater start outweighs as many digits as follow.
theorem digitsValue_start {m n : Nat} (less : m < n) (digits : ∀ c ∈ field, c.isDigit = true)
    (width : field.length = other.length) : digitsValue m field < digitsValue n other := by
  induction field generalizing other m n with
  | nil =>
    cases other with
    | nil => exact less
    | cons d other => cases width
  | cons c field ih =>
    cases other with
    | nil => cases width
    | cons d other =>
      obtain ⟨first, later⟩ := List.forall_mem_cons.mp digits
      have bounds := digit_bounds first
      rw [digitsValue_cons, digitsValue_cons]
      exact ih (by omega) later (Nat.succ.inj width)

theorem digitsValue_lt {start : Nat} (digits : ∀ c ∈ field, c.isDigit = true)
    (width : field.length = other.length) (before : Before field other) :
    digitsValue start field < digitsValue start other := by
  induction field generalizing other start with
  | nil =>
    rw [List.length_eq_zero_iff.mp width.symm] at before
    cases before
  | cons c field ih =>
    cases other with
    | nil => cases width
    | cons d other =>
      obtain ⟨first, later⟩ := List.forall_mem_cons.mp digits
      have bounds := digit_bounds first
      rw [digitsValue_cons, digitsValue_cons]
      cases before with
      | rel less => exact digitsValue_start (by omega) later (Nat.succ.inj width)
      | cons rest => exact ih later (Nat.succ.inj width) rest

-- Where a number is over, a smaller character follows than any digit.
theorem fields_order (digits : ∀ c ∈ field, c.isDigit = true)
    (order : ¬Before (other ++ stamped others) (field ++ stamped fields)) :
    Before field other ∨ field = other ∧ ¬Before (stamped others) (stamped fields) := by
  induction field generalizing other with
  | nil =>
    cases other with
    | nil => exact .inr ⟨rfl, order⟩
    | cons d other => exact .inl .nil
  | cons c field ih =>
    obtain ⟨first, later⟩ := List.forall_mem_cons.mp digits
    cases other with
    | nil =>
      obtain ⟨e, rest, same, _, low⟩ := stamped_head others
      have bounds := digit_bounds first
      rw [List.nil_append, same] at order
      exact absurd (.rel (by omega)) order
    | cons d other =>
      rcases Nat.lt_trichotomy c.toNat d.toNat with less | equal | more
      · exact .inl (.rel less)
      · have same : c = d := Char.toNat_inj.mp equal
        rw [same] at order ⊢
        rcases ih later fun rest => order (.cons rest) with before | ⟨equal, behind⟩
        · exact .inl (.cons before)
        · exact .inr ⟨by rw [equal], behind⟩
      · exact absurd (.rel more) order

theorem before_irrefl (cs : List Char) : ¬Before cs cs := by
  intro before
  induction cs with
  | nil => cases before
  | cons c cs ih =>
    cases before with
    | rel less => exact Nat.lt_irrefl _ less
    | cons rest => exact ih rest

theorem isAscii_cons (ascii : isAscii (field :: fields) = true) :
    (∀ c ∈ field, c.isDigit = true) ∧ isAscii fields = true := by
  rw [isAscii, List.all_cons, Bool.and_eq_true_iff, List.all_eq_true] at ascii
  exact ascii

theorem earlier_cons : Earlier (field :: fields) (other :: others) ↔
    digitsValue 0 field < digitsValue 0 other ∨
      digitsValue 0 field = digitsValue 0 other ∧ Earlier fields others :=
  List.cons_lex_cons_iff

-- Of two stamps in the order of their texts, the first is the later one exactly if it overtakes.
theorem earlier_iff_overtakes (one : Stamp count fields) (two : Stamp count others) (ascii : isAscii fields = true)
    (order : ¬Before (stamped others) (stamped fields)) : Earlier others fields ↔ Overtakes fields others := by
  induction count generalizing fields others with
  | zero =>
    rw [List.length_eq_zero_iff.mp one.counted, List.length_eq_zero_iff.mp two.counted]
    exact ⟨nofun, nofun⟩
  | succ count ih =>
    cases fields with
    | nil => cases one.counted
    | cons field fields =>
      cases others with
      | nil => cases two.counted
      | cons other others =>
        obtain ⟨digits, later⟩ := isAscii_cons ascii
        rw [stamped_cons, stamped_cons] at order
        unfold Overtakes
        rcases fields_order digits fun rest => order (.cons rest) with before | ⟨same, behind⟩
        · have differ : field ≠ other := by
            intro same
            rw [same] at before
            exact before_irrefl other before
          constructor
          · intro overtaken
            refine .inr ⟨differ, ?_, overtaken⟩
            intro width
            have less : digitsValue 0 field < digitsValue 0 other := digitsValue_lt digits width before
            rcases earlier_cons.mp overtaken with more | ⟨equal, _⟩ <;> omega
          · intro ahead
            rcases ahead with ⟨same, _⟩ | ⟨_, _, overtaken⟩
            · exact absurd same differ
            · exact overtaken
        · have rest := ih (stamp_cons.mp one).2 (stamp_cons.mp two).2 later behind
          rw [earlier_cons, same, rest]
          simp

theorem uneven_cons (field other : List Char) (fields others : List (List Char)) :
    unevenFields (field :: fields) (other :: others) =
      unevenFields fields others + if field.length = other.length then 0 else 1 := by
  unfold unevenFields
  rw [List.zip_cons_cons, List.countP_cons]
  by_cases width : field.length = other.length <;> simp [width]

theorem uneven_of_width (counted : fields.length = others.length)
    (differ : fields.flatten.length ≠ others.flatten.length) : 1 ≤ unevenFields fields others := by
  induction fields generalizing others with
  | nil =>
    rw [List.length_eq_zero_iff.mp counted.symm] at differ
    exact absurd rfl differ
  | cons field fields ih =>
    cases others with
    | nil => cases counted
    | cons other others =>
      rw [List.flatten_cons, List.flatten_cons, List.length_append, List.length_append] at differ
      rw [uneven_cons]
      split
      · exact ih (Nat.succ.inj counted) (by omega)
      · omega

-- Where the stamps are of one length, a second field has to make up for the first.
theorem overtakes_uneven (counted : fields.length = others.length)
    (length : fields.flatten.length = others.flatten.length)
    (ahead : Overtakes fields others) : 2 ≤ unevenFields fields others := by
  induction fields generalizing others with
  | nil => cases ahead
  | cons field fields ih =>
    cases others with
    | nil => cases counted
    | cons other others =>
      rw [List.flatten_cons, List.flatten_cons, List.length_append, List.length_append] at length
      rw [uneven_cons]
      rcases ahead with ⟨same, rest⟩ | ⟨_, width, _⟩
      · rw [same] at length ⊢
        have more := ih (Nat.succ.inj counted) (by omega) rest
        omega
      · have more := uneven_of_width (Nat.succ.inj counted) (by omega)
        rw [if_neg width]
        omega

end BenchCharts.Dataset
