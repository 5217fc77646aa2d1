import BenchCharts.Proofs.Number.RoundTrip
import BenchCharts.Proofs.Number.Value

namespace BenchCharts.Number

variable {x y : Float} {places n : Nat} {c : Char}

-- The float in units of its last place, as it is written.
def inPlaces (places : Nat) (x : Float) : Int :=
  signedSize (isNegative x) (roundHalfEven (unitsOf (size x) * pow10 places) unitsPerOne)

theorem signedSize_mono {f : Nat → Nat} (keeps : Monotone f) (none : f 0 = 0) {negative other : Bool} {k l : Nat}
    (less : signedSize negative k ≤ signedSize other l) : signedSize negative (f k) ≤ signedSize other (f l) := by
  have up : k ≤ l → f k ≤ f l := fun order => keeps order
  have down : l ≤ k → f l ≤ f k := fun order => keeps order
  unfold signedSize at *
  cases negative <;> cases other <;> simp only [Bool.false_eq_true, if_true, if_false] at *
  · omega
  · obtain ⟨rfl, rfl⟩ : k = 0 ∧ l = 0 := by omega
    omega
  · omega
  · omega

theorem inPlaces_mono (places : Nat) (one : x.isFinite = true) (two : y.isFinite = true) (less : x ≤ y) :
    inPlaces places x ≤ inPlaces places y := by
  have units : signedSize (isNegative x) (unitsOf (size x)) ≤ signedSize (isNegative y) (unitsOf (size y)) := by
    have values := (value_le_iff one two).mpr less
    rwa [value, value, div_le_div_iff_of_pos_right unitsPerOne_pos, Int.cast_le] at values
  refine signedSize_mono (f := fun k => roundHalfEven (k * pow10 places) unitsPerOne) ?_ ?_ units
  · intro k l order
    exact roundHalfEven_mono (pow2_pos _) (pow2_pos _) (Nat.mul_le_mul_right _ (Nat.mul_le_mul_right _ order))
  · simp [roundHalfEven]

theorem digitsValue_shifted (start : Nat) (digits : List Char) :
    digitsValue start digits = pow10 digits.length * start + digitsValue 0 digits :=
  Nat.ofDigitChars_eq_ofDigitChars_zero

def padded (places n : Nat) : List Char :=
  List.replicate (places - (Nat.toDigits 10 n).length) '0' ++ Nat.toDigits 10 n

theorem padded_digits (places n : Nat) : ∀ c ∈ padded places n, c.isDigit = true :=
  List.forall_mem_append.mpr ⟨zeros_digit _, toDigits_digits n⟩

theorem padded_value (places n : Nat) : digitsValue 0 (padded places n) = n := by
  rw [padded, digitsValue_append, digitsValue_zeros, Nat.mul_zero, toDigits_value]

theorem padded_length (some : 0 < places) (fits : n < pow10 places) : (padded places n).length = places := by
  have short := (Nat.length_toDigits_le_iff (by decide) some).mpr fits
  rw [padded, List.length_append, List.length_replicate, Nat.sub_add_cancel short]

theorem pointed_whole (n : Nat) : (pointed 0 n).toList = Nat.toDigits 10 n := Nat.toList_repr

theorem pointed_placed (some : 0 < places) (n : Nat) : (pointed places n).toList =
    Nat.toDigits 10 (n / pow10 places) ++ '.' :: padded places (n % pow10 places) := by
  rw [pointed, if_neg some.ne']
  simp [toList_zeros, padded, Nat.repr_eq_ofList_toDigits]

theorem read_pointed (places n : Nat) : readDecimal? (pointed places n).toList = some ⟨n, -places⟩ := by
  rcases Nat.eq_zero_or_pos places with rfl | some
  · rw [pointed_whole, readDecimal_whole Nat.toDigits_ne_nil (toDigits_digits n), toDigits_value]
    rfl
  · have length := padded_length some (Nat.mod_lt n (pow10_pos places))
    rw [pointed_placed some, readDecimal_pointed Nat.toDigits_ne_nil (toDigits_digits _) (padded_digits _ _), length,
      digitsValue_append, toDigits_value, digitsValue_shifted, padded_value, length, Nat.div_add_mod]

def numeric (c : Char) : Bool := c.isDigit || c == '-' || c == '.'

theorem pointed_numeric (places n : Nat) : ∀ c ∈ (pointed places n).toList, numeric c = true := by
  have digits {cs : List Char} (all : ∀ c ∈ cs, c.isDigit = true) : ∀ c ∈ cs, numeric c = true := by
    intro c member
    simp [numeric, all c member]
  rcases Nat.eq_zero_or_pos places with rfl | some
  · rw [pointed_whole]
    exact digits (toDigits_digits n)
  · rw [pointed_placed some]
    simp only [List.forall_mem_append, List.forall_mem_cons]
    exact ⟨digits (toDigits_digits _), rfl, digits (padded_digits _ _)⟩

theorem pointed_head (places n : Nat) : ∃ c rest, (pointed places n).toList = c :: rest ∧ c.isDigit = true := by
  have first (k : Nat) (others : List Char) : ∃ c rest, Nat.toDigits 10 k ++ others = c :: rest ∧ c.isDigit = true := by
    obtain ⟨c, rest, digits⟩ := List.exists_cons_of_ne_nil (Nat.toDigits_ne_nil (n := k) (b := 10))
    exact ⟨c, rest ++ others, by rw [digits, List.cons_append], toDigits_digits k c (by simp [digits])⟩
  rcases Nat.eq_zero_or_pos places with rfl | some
  · simpa [pointed_whole] using first n []
  · rw [pointed_placed some]
    exact first _ _

def Decimal.value (d : Decimal) : ℚ := d.digits * 10 ^ d.exponent

-- The number that digits with a point and a sign stand for.
def numeral? : List Char → Option ℚ
  | '-' :: digits => (readDecimal? digits).map fun d => -d.value
  | digits => (readDecimal? digits).map Decimal.value

theorem fixed_finite (finite : x.isFinite = true) (places : Nat) : fixed places x =
    (if isNegative x then "-" else "") ++ pointed places (roundHalfEven (unitsOf (size x) * pow10 places) unitsPerOne) := by
  obtain ⟨m, s, stands, units⟩ := exact_units finite
  rw [fixed, stands, ← units]

theorem fixed_numeric (finite : x.isFinite = true) (places : Nat) : ∀ c ∈ (fixed places x).toList, numeric c = true := by
  rw [fixed_finite finite, String.toList_append, List.forall_mem_append]
  refine ⟨?_, pointed_numeric _ _⟩
  cases isNegative x <;> simp [numeric]

theorem numeral_signed (negative : Bool) (places n : Nat) :
    numeral? ((if negative then "-" else "") ++ pointed places n).toList = some ((signedSize negative n : ℚ) / pow10 places) := by
  have read := read_pointed places n
  have value : Decimal.value ⟨n, -places⟩ = n / pow10 places := by
    rw [Decimal.value, zpow_neg, zpow_natCast, ← div_eq_mul_inv, pow10, Nat.pow_eq, Nat.cast_pow, Nat.cast_ofNat]
  cases negative with
  | true =>
    have chars : ("-" ++ pointed places n).toList = '-' :: (pointed places n).toList := by simp
    rw [if_pos rfl, chars, numeral?, read, Option.map_some, value, signedSize, if_pos rfl, Int.cast_neg, Int.cast_natCast,
      neg_div]
  | false =>
    obtain ⟨c, rest, head, digit⟩ := pointed_head places n
    have unsigned : c ≠ '-' := by
      rintro rfl
      cases digit
    have plain : numeral? (c :: rest) = (readDecimal? (c :: rest)).map Decimal.value := by simp [numeral?, unsigned]
    rw [if_neg Bool.false_ne_true, String.empty_append, head, plain, ← head, read, Option.map_some, value, signedSize,
      if_neg Bool.false_ne_true, Int.cast_natCast]

theorem fixed_inPlaces (finite : x.isFinite = true) (some : 0 < n) (same : inPlaces places x = n) :
    fixed places x = pointed places n := by
  rw [fixed_finite finite]
  unfold inPlaces at same
  generalize roundHalfEven (unitsOf (size x) * pow10 places) unitsPerOne = k at same ⊢
  cases negative : isNegative x with
  | true =>
    rw [negative, signedSize, if_pos rfl] at same
    omega
  | false =>
    rw [negative, signedSize, if_neg Bool.false_ne_true] at same
    rw [if_neg Bool.false_ne_true, String.empty_append, Int.ofNat_inj.mp same]

theorem numeral_fixed (finite : x.isFinite = true) (places : Nat) :
    numeral? (fixed places x).toList = some ((inPlaces places x : ℚ) / pow10 places) := by
  rw [fixed_finite finite, numeral_signed]
  rfl

end BenchCharts.Number
