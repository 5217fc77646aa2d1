import BenchCharts.Number.Literal
import BenchCharts.Number.Style
import BenchCharts.Proofs.Number.Pattern
import BenchCharts.Proofs.Number.Shortest
import Mathlib.Data.List.TakeWhile

namespace BenchCharts.Number
open Number.Interval

section Reading

variable {whole places : List Char} {c : Char} {rest : List Char}

theorem readDecimal_whole (nonempty : whole ≠ []) (digits : ∀ c ∈ whole, c.isDigit = true) :
    readDecimal? whole = some ⟨digitsValue 0 whole, 0⟩ := by
  have taken : whole.takeWhile Char.isDigit = whole := List.takeWhile_eq_self_iff.mpr digits
  have dropped : whole.dropWhile Char.isDigit = [] := List.dropWhile_eq_nil_iff.mpr digits
  simp [readDecimal?, taken, dropped, nonempty, digitsValue]

theorem readDecimal_pointed (nonempty : whole ≠ []) (digits : ∀ c ∈ whole, c.isDigit = true)
    (others : ∀ c ∈ places, c.isDigit = true) :
    readDecimal? (whole ++ '.' :: places) = some ⟨digitsValue 0 (whole ++ places), -places.length⟩ := by
  have point : Char.isDigit '.' = false := rfl
  have taken : places.takeWhile Char.isDigit = places := List.takeWhile_eq_self_iff.mpr others
  have dropped : places.dropWhile Char.isDigit = [] := List.dropWhile_eq_nil_iff.mpr others
  simp [readDecimal?, List.takeWhile_append_of_pos digits, List.dropWhile_append_of_pos digits, point, taken, dropped,
    nonempty, digitsValue]

theorem toLower_digit (digit : c.isDigit = true) : c.toLower = c := by
  rw [Char.isDigit_iff_toNat] at digit
  have low : c.toNat ≤ 57 := digit.2
  unfold Char.toLower
  rw [dif_neg]
  rintro ⟨upper, _⟩
  have high : 65 ≤ c.toNat := upper
  omega

-- No word for a number starts with a digit.
theorem readUnsigned_digit (negative : Bool) (digit : c.isDigit = true) :
    readUnsigned? negative (c :: rest) = (readDecimal? (c :: rest)).map fun d => ofSize negative d.nearest := by
  have other : ∀ (letter : Char) (word : List Char), letter.isDigit = false →
      String.ofList ((c :: rest).map Char.toLower) ≠ String.ofList (letter :: word) := by
    intro letter word none same
    rw [String.ofList_inj, List.map_cons, toLower_digit digit] at same
    rw [(List.cons.inj same).1, none] at digit
    cases digit
  rw [readUnsigned?, if_neg, if_neg (other 'n' ['a', 'n'] rfl)]
  exact not_or.mpr ⟨other 'i' ['n', 'f'] rfl, other 'i' ['n', 'f', 'i', 'n', 'i', 't', 'y'] rfl⟩

end Reading

section Placing

variable {digits : List Char} {point : Int}

theorem zeros_digit (n : Nat) : ∀ c ∈ List.replicate n '0', c.isDigit = true := by
  intro c member
  rw [List.eq_of_mem_replicate member]
  rfl

theorem toList_zeros (n : Nat) : (zeros n).toList = List.replicate n '0' := String.toList_ofList

theorem digitsValue_append (start : Nat) (front back : List Char) :
    digitsValue start (front ++ back) = digitsValue (digitsValue start front) back := List.foldl_append

theorem digitsValue_zeros (start n : Nat) : digitsValue start (List.replicate n '0') = pow10 n * start :=
  Nat.ofDigitChars_replicate_zero

-- However the point is placed, the digits read back with the same weight, up to trailing zeros.
theorem read_placed (nonempty : digits ≠ []) (all : ∀ c ∈ digits, c.isDigit = true) (point : Int) :
    ∃ k : Nat, readDecimal? (Style.plain.placed digits point).toList =
      some ⟨digitsValue 0 digits * pow10 k, point - digits.length - k⟩ := by
  unfold Style.placed
  by_cases before : point ≤ 0
  · have others : ∀ c ∈ List.replicate (-point).toNat '0' ++ digits, c.isDigit = true :=
      List.forall_mem_append.mpr ⟨zeros_digit _, all⟩
    have read := readDecimal_pointed (List.cons_ne_nil '0' []) (List.forall_mem_singleton.mpr rfl) others
    have value : digitsValue 0 (['0'] ++ (List.replicate (-point).toNat '0' ++ digits)) = digitsValue 0 digits := by
      rw [digitsValue_append, digitsValue_append, digitsValue_zeros]
      rfl
    have weight : -((List.replicate (-point).toNat '0' ++ digits).length : Int) = point - digits.length - (0 : Nat) := by
      rw [List.length_append, List.length_replicate]
      omega
    refine ⟨0, ?_⟩
    rw [if_pos before, pow10_zero, Nat.mul_one, ← value, ← weight, ← read]
    simp [toList_zeros]
  · rw [if_neg before]
    dsimp only
    by_cases after : digits.length ≤ point.toNat
    · have others : ∀ c ∈ digits ++ List.replicate (point.toNat - digits.length) '0', c.isDigit = true :=
        List.forall_mem_append.mpr ⟨all, zeros_digit _⟩
      have read := readDecimal_whole (by simp [nonempty]) others
      refine ⟨point.toNat - digits.length, ?_⟩
      have weight : (0 : Int) = point - digits.length - (point.toNat - digits.length : Nat) := by omega
      rw [if_pos after, ← weight, Nat.mul_comm, ← digitsValue_zeros, ← digitsValue_append, ← read]
      simp [toList_zeros, Style.plain]
    · have front : ∀ c ∈ digits.take point.toNat, c.isDigit = true :=
        fun c member => all c (List.mem_of_mem_take member)
      have back : ∀ c ∈ digits.drop point.toNat, c.isDigit = true :=
        fun c member => all c (List.mem_of_mem_drop member)
      have read := readDecimal_pointed (by simp [nonempty]; omega) front back
      have weight : -((digits.drop point.toNat).length : Int) = point - digits.length - (0 : Nat) := by
        rw [List.length_drop]
        omega
      refine ⟨0, ?_⟩
      rw [List.take_append_drop] at read
      rw [if_neg after, pow10_zero, Nat.mul_one, ← weight, ← read]
      simp

theorem placed_head (nonempty : digits ≠ []) (all : ∀ c ∈ digits, c.isDigit = true) (point : Int) :
    ∃ c rest, (Style.plain.placed digits point).toList = c :: rest ∧ c.isDigit = true := by
  obtain ⟨c, rest, rfl⟩ := List.exists_cons_of_ne_nil nonempty
  have first := all c List.mem_cons_self
  unfold Style.placed
  by_cases before : point ≤ 0
  · rw [if_pos before]
    exact ⟨'0', '.' :: ((zeros (-point).toNat).toList ++ c :: rest), by simp, rfl⟩
  · obtain ⟨n, positive⟩ : ∃ n : Nat, point.toNat = n + 1 := ⟨point.toNat - 1, by omega⟩
    rw [if_neg before, positive]
    dsimp only
    split
    · exact ⟨c, _, by simp; rfl, first⟩
    · exact ⟨c, _, by simp; rfl, first⟩

end Placing

theorem read_signed (negative : Bool) {body : String} {c : Char} {rest : List Char} (head : body.toList = c :: rest)
    (digit : c.isDigit = true) : read? ((if negative then "-" else "") ++ body) =
      (readDecimal? body.toList).map fun d => ofSize negative d.nearest := by
  rw [head, ← readUnsigned_digit negative digit, read?]
  cases negative with
  | true => simp [head]
  | false =>
    have minus : c ≠ '-' := fun same => by rw [same] at digit; cases digit
    have plus : c ≠ '+' := fun same => by rw [same] at digit; cases digit
    simp [head, minus, plus]

theorem toDigits_digits (n : Nat) : ∀ c ∈ Nat.toDigits 10 n, c.isDigit = true :=
  fun _ member => Nat.isDigit_of_mem_toDigits (by decide) (by decide) member

theorem toDigits_value (n : Nat) : digitsValue 0 (Nat.toDigits 10 n) = n := Nat.ofDigitChars_ten_toDigits

theorem read_decimal (negative : Bool) (d : Decimal) : ∃ k : Nat,
    read? ((if negative then "-" else "") ++ Style.plain.decimal d) =
      some (ofSize negative (Decimal.mk (d.digits * pow10 k) (d.exponent - k)).nearest) := by
  have nonempty : Nat.toDigits 10 d.digits ≠ [] := Nat.toDigits_ne_nil
  have all := toDigits_digits d.digits
  have written : Style.plain.decimal d =
    Style.plain.placed (Nat.toDigits 10 d.digits) ((Nat.toDigits 10 d.digits).length + d.exponent) := rfl
  obtain ⟨k, read⟩ := read_placed nonempty all ((Nat.toDigits 10 d.digits).length + d.exponent)
  obtain ⟨c, rest, head, digit⟩ := placed_head nonempty all ((Nat.toDigits 10 d.digits).length + d.exponent)
  refine ⟨k, ?_⟩
  rw [written, read_signed negative head digit, read, toDigits_value, Option.map_some, add_sub_cancel_left]

theorem read_finite (negative : Bool) {m s : Nat} (significand : m < pow2 53) (shift : s ≤ 2045)
    (full : s = 0 ∨ pow2 52 ≤ m) : read? ((if negative then "-" else "") ++ Style.plain.decimal (shortest .up m s)) =
      some (ofSize negative (s * pow2 52 + m)) := by
  obtain ⟨k, read⟩ := read_decimal negative (shortest .up m s)
  rw [read]
  congr 2
  rcases Nat.eq_zero_or_pos m with rfl | positive
  · have low : s = 0 := by
      rcases full with none | large
      · exact none
      · exact absurd large (by decide)
    subst low
    simp [shortest, Decimal.nearest]
  · have canonical : Canonical m s := ⟨positive, significand, shift, full⟩
    apply nearest_held canonical
    apply (holds_scaled k).mp
    rw [Int.sub_add_cancel]
    exact shortest_holds canonical .up

theorem read_write (x : Float) : read? (write .plain x) = some x := by
  have whole := float_exact x
  unfold write
  cases stands : exact x with
  | undefined =>
    rw [stands] at whole
    rw [← whole]
    rfl
  | infinite negative =>
    rw [stands] at whole
    rw [← whole]
    cases negative <;> rfl
  | finite negative m s =>
    rw [stands] at whole
    obtain ⟨significand, shift, full⟩ := exact_finite stands
    rw [← whole]
    exact read_finite negative significand shift full

end BenchCharts.Number
