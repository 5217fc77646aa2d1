import BenchCharts.Proofs.Number.Nearest
import BenchCharts.Proofs.Number.Pattern

namespace BenchCharts.Number
open Float.Model Float.Model.UnpackedFloat

def isNegative (x : Float) : Bool := x.toBits.toNat / pow2 63 % 2 == 1
def size (x : Float) : Nat := x.toBits.toNat % pow2 63

def signOf (negative : Bool) : Sign := if negative then .negative else .positive

def pattern (negative : Bool) (size : Nat) : Nat := if negative then pow2 63 + size else size

-- The unpacked form of a number with a sign and a size.
inductive Sized : UnpackedFloat → Bool → Nat → Prop where
  | zero {negative : Bool} : Sized (.zero (signOf negative)) negative 0
  | finite {negative : Bool} {m s : Nat} (canonical : Canonical m s) :
      Sized (.finite (signOf negative) m (s - 1074) canonical.positive) negative (s * pow2 52 + m)
  | infinity {negative : Bool} : Sized (.infinity (signOf negative)) negative infinityBits

variable {x y : Float} {negative other : Bool} {m s k l : Nat} {f g : UnpackedFloat}

theorem packComponents_toNat (exponent : BitVec 11) (fraction : BitVec 52) :
    (packComponents .binary64 (signOf negative) exponent fraction).toNat =
      pattern negative (exponent.toNat * pow2 52 + fraction.toNat) := by
  unfold packComponents
  rw [BitVec.toNat_append, ← Nat.shiftLeft_add_eq_or_of_lt fraction.isLt, BitVec.toNat_append,
    ← Nat.shiftLeft_add_eq_or_of_lt exponent.isLt]
  cases negative with
  | false => simp [signOf, Sign.toBitVec, pattern, pow2, Nat.shiftLeft_eq]
  | true =>
    simp [signOf, Sign.toBitVec, pattern, pow2, Nat.shiftLeft_eq]
    omega

-- A full significand leaves its first bit out, which stands for one more in the exponent.
theorem Sized.pack_toNat (sized : Sized f negative k) :
    (UnpackedFloat.pack .binary64 f).toNat = pattern negative k := by
  cases sized with
  | zero => exact packComponents_toNat 0 0
  | infinity => exact packComponents_toNat (-1#11) 0
  | finite canonical =>
    rename_i m s
    obtain ⟨positive, significand, shift, full⟩ := canonical
    have biased : ((s : Int) - 1074 + Format.binary64.exponentBias + (52 : Nat)).toNat = s + 1 := by
      have bias : (Format.binary64.exponentBias : Int) = 1023 := by decide
      omega
    have small : ¬2 ^ 11 ≤ s + 1 + 1 := by omega
    unfold UnpackedFloat.pack
    dsimp only
    rw [biased, if_neg small]
    change (if m.log2 + 1 = 53 then _ else _ : BitVec 64).toNat = _
    by_cases normal : m.log2 + 1 = 53
    · have least : 2 ^ 52 ≤ m := (Nat.le_log2 positive.ne').mp (by omega)
      have fields : (BitVec.ofNat 11 (s + 1)).toNat * pow2 52 + (BitVec.ofNat 52 m).toNat = s * pow2 52 + m := by
        simp only [BitVec.toNat_ofNat, pow2, Nat.pow_eq]
        omega
      rw [if_pos normal, packComponents_toNat, fields]
    · have less : m < 2 ^ 52 := by
        have most := (Nat.log2_lt positive.ne').mpr significand
        exact (Nat.log2_lt positive.ne').mp (by omega)
      have fields : (0#11).toNat * pow2 52 + (BitVec.ofNat 52 m).toNat = s * pow2 52 + m := by
        simp only [BitVec.toNat_ofNat, pow2, Nat.pow_eq]
        omega
      rw [if_neg normal, packComponents_toNat, fields]

theorem Sized.pack (sized : Sized f negative k) : Float.ofModel (.pack f) = ofSize negative k := by
  have bits : (Float.ofModel (.pack f)).toBits = UInt64.ofNat (pattern negative k) := by
    rw [← sized.pack_toNat]
    apply UInt64.toBitVec_inj.mp
    apply BitVec.eq_of_toNat_eq
    simp [Float.toBits, Float.Model.pack]
  rw [← Float.ofBits_toBits (Float.ofModel (.pack f)), bits]
  rfl

theorem Canonical.size_lt (canonical : Canonical m s) : s * pow2 52 + m < infinityBits := by
  obtain ⟨_, significand, shift, _⟩ := canonical
  simp only [infinityBits, pow2, Nat.pow_eq, Nat.reducePow] at *
  omega

theorem Sized.le (sized : Sized f negative k) : k ≤ infinityBits := by
  cases sized with
  | zero => exact Nat.zero_le _
  | finite canonical => exact canonical.size_lt.le
  | infinity => exact Nat.le_refl _

theorem Sized.defined (sized : Sized f negative k) : f.isNaN = false := by
  cases sized <;> rfl

theorem Sized.finite_iff (sized : Sized f negative k) : f.isFinite = true ↔ k < infinityBits := by
  cases sized with
  | zero => exact ⟨fun _ => by decide, fun _ => rfl⟩
  | finite canonical => exact ⟨fun _ => canonical.size_lt, fun _ => rfl⟩
  | infinity => exact ⟨nofun, fun less => absurd less (Nat.lt_irrefl _)⟩

-- Every size up to that of infinity belongs to a number.
theorem exists_sized (negative : Bool) (bounded : k ≤ infinityBits) : ∃ f, Sized f negative k := by
  rcases Nat.eq_zero_or_pos k with rfl | positive
  · exact ⟨_, .zero⟩
  rcases Nat.eq_or_lt_of_le bounded with rfl | less
  · exact ⟨_, .infinity⟩
  by_cases low : k < 2 ^ 52
  · have canonical : Canonical k 0 := ⟨positive, by omega, by omega, .inl rfl⟩
    have same : 0 * pow2 52 + k = k := by simp
    exact ⟨_, same ▸ Sized.finite canonical⟩
  · have canonical : Canonical (2 ^ 52 + k % 2 ^ 52) (k / 2 ^ 52 - 1) := by
      simp only [infinityBits, pow2, Nat.pow_eq, Nat.reducePow] at less
      refine ⟨by omega, by omega, by omega, .inr (by omega)⟩
    have same : (k / 2 ^ 52 - 1) * pow2 52 + (2 ^ 52 + k % 2 ^ 52) = k := by
      simp only [pow2, Nat.pow_eq]
      omega
    exact ⟨_, same ▸ Sized.finite canonical⟩

theorem toNat_ofSize (negative : Bool) (bounded : k ≤ infinityBits) :
    (ofSize negative k).toBits.toNat = pattern negative k := by
  obtain ⟨f, sized⟩ := exists_sized negative bounded
  rw [← sized.pack, ← sized.pack_toNat]
  rfl

theorem size_ofSize (negative : Bool) (bounded : k ≤ infinityBits) : size (ofSize negative k) = k := by
  rw [size, toNat_ofSize negative bounded]
  simp only [infinityBits, pow2, Nat.pow_eq, Nat.reducePow] at bounded
  cases negative <;> simp [pattern, pow2] <;> omega

theorem isNegative_ofSize (negative : Bool) (bounded : k ≤ infinityBits) :
    isNegative (ofSize negative k) = negative := by
  rw [isNegative, toNat_ofSize negative bounded]
  simp only [infinityBits, pow2, Nat.pow_eq, Nat.reducePow] at bounded
  cases negative <;> simp [pattern, pow2] <;> omega

section Fields

variable (b : BitVec Format.binary64.numBits)

theorem unpackSign_eq : Sign.ofBitVec (unpackSign b) = signOf (b.toNat / 2 ^ 63 % 2 == 1) := by
  have bit : (unpackSign b).toNat = b.toNat / 2 ^ 63 % 2 := by
    simp [unpackSign, Nat.shiftRight_eq_div_pow]
  rw [← bit]
  generalize unpackSign b = sign
  rcases BitVec.eq_zero_or_eq_one sign with rfl | rfl <;> rfl

theorem unpackExponent_toNat : (unpackExponent b).toNat = b.toNat / 2 ^ 52 % 2 ^ 11 := by
  simp [unpackExponent, Nat.shiftRight_eq_div_pow]

theorem unpackMantissa_toNat : (unpackMantissa b).toNat = b.toNat % 2 ^ 52 := by
  simp [unpackMantissa]

theorem unpackFull_toNat : (1#1 ++ unpackMantissa b).toNat = 2 ^ 52 + b.toNat % 2 ^ 52 := by
  rw [BitVec.toNat_append, ← Nat.shiftLeft_add_eq_or_of_lt (unpackMantissa b).isLt, unpackMantissa_toNat]
  rfl

theorem Sized.of_finite {e : Int} (canonical : Canonical m s) (positive : 0 < m) (exponent : e = s - 1074)
    (same : k = s * pow2 52 + m) : Sized (.finite (signOf negative) m e positive) negative k := by
  subst exponent same
  exact .finite canonical

-- What bits are unpacked to: nothing, or a sign and a size.
theorem unpack_bits : (UnpackedFloat.unpack .binary64 b = .notANumber ∧ infinityBits < b.toNat % pow2 63) ∨
    Sized (UnpackedFloat.unpack .binary64 b) (b.toNat / pow2 63 % 2 == 1) (b.toNat % pow2 63) := by
  have exponent := unpackExponent_toNat b
  have fraction := unpackMantissa_toNat b
  have full := unpackFull_toNat b
  have bias : (Format.binary64.exponentBias : Int) = 1023 := by decide
  have sign : signOf (b.toNat / pow2 63 % 2 == 1) = Sign.ofBitVec (unpackSign b) := (unpackSign_eq b).symm
  unfold UnpackedFloat.unpack
  dsimp only
  rw [← sign]
  generalize (b.toNat / pow2 63 % 2 == 1) = negative
  simp only [infinityBits, pow2, Nat.pow_eq]
  split
  · rename_i ones
    have top : 2047 = b.toNat / 2 ^ 52 % 2 ^ 11 := (congrArg BitVec.toNat ones).symm.trans exponent
    split
    · rename_i none
      have blank : 0 = b.toNat % 2 ^ 52 := (congrArg BitVec.toNat none).symm.trans fraction
      have same : b.toNat % 2 ^ 63 = infinityBits := by
        simp only [infinityBits, pow2, Nat.pow_eq]
        omega
      exact .inr (same ▸ .infinity)
    · rename_i some
      have filled : b.toNat % 2 ^ 52 ≠ 0 := fun none => some (BitVec.eq_of_toNat_eq (fraction.trans none))
      exact .inl ⟨rfl, by omega⟩
  · rename_i low
    have below : b.toNat / 2 ^ 52 % 2 ^ 11 ≠ 2047 := fun top => low (BitVec.eq_of_toNat_eq (exponent.trans top))
    refine .inr ?_
    split
    · rename_i least
      have bottom : 0 = b.toNat / 2 ^ 52 % 2 ^ 11 := (congrArg BitVec.toNat least).symm.trans exponent
      split
      · rename_i none
        have blank : 0 = b.toNat % 2 ^ 52 := (congrArg BitVec.toNat none).symm.trans fraction
        have same : b.toNat % 2 ^ 63 = 0 := by omega
        exact same ▸ .zero
      · rename_i some
        have filled : b.toNat % 2 ^ 52 ≠ 0 := fun none => some (BitVec.eq_of_toNat_eq (fraction.trans none))
        refine .of_finite (s := 0) ⟨by omega, by omega, by omega, .inl rfl⟩ _ (by omega) ?_
        simp only [pow2, Nat.pow_eq]
        omega
    · rename_i more
      have above : b.toNat / 2 ^ 52 % 2 ^ 11 ≠ 0 := fun none => more (BitVec.eq_of_toNat_eq (exponent.trans none))
      refine .of_finite (s := b.toNat / 2 ^ 52 % 2 ^ 11 - 1) ⟨by omega, by omega, by omega, .inr (by omega)⟩ _
        (by omega) ?_
      simp only [pow2, Nat.pow_eq]
      omega

end Fields

theorem unpack_cases (x : Float) :
    (x.toModel.unpack = .notANumber ∧ infinityBits < size x) ∨ Sized x.toModel.unpack (isNegative x) (size x) :=
  unpack_bits x.toBits.toBitVec

theorem isNaN_iff : x.isNaN = true ↔ infinityBits < size x := by
  change x.toModel.unpack.isNaN = true ↔ _
  rcases unpack_cases x with ⟨undefined, large⟩ | sized
  · simp [undefined, UnpackedFloat.isNaN, large]
  · simp [sized.defined, sized.le]

theorem eq_undefined (undefined : x.isNaN = true) : x = Number.undefined := by
  rw [isNaN_iff, size] at undefined
  simp only [infinityBits, pow2, Nat.pow_eq, Nat.reducePow] at undefined
  apply bits_undefined
  · simp only [pow2, Nat.pow_eq, Nat.reducePow]
    omega
  · simp only [pow2, Nat.pow_eq, Nat.reducePow]
    omega

theorem isFinite_iff : x.isFinite = true ↔ size x < infinityBits := by
  change x.toModel.unpack.isFinite = true ↔ _
  rcases unpack_cases x with ⟨undefined, large⟩ | sized
  · simp [undefined, UnpackedFloat.isFinite, large.le]
  · exact sized.finite_iff

theorem sized_unpack (defined : x.isNaN = false) : Sized x.toModel.unpack (isNegative x) (size x) := by
  rcases unpack_cases x with ⟨_, large⟩ | sized
  · rw [isNaN_iff.mpr large] at defined
    cases defined
  · exact sized

-- The size with the sign: numbers are ordered by it, and both zeros have none.
def signedSize (negative : Bool) (size : Nat) : Int := if negative then -size else size

def signed (x : Float) : Int := signedSize (isNegative x) (size x)

theorem Canonical.compare {n t : Nat} (one : Canonical m s) (two : Canonical n t) :
    (Ord.compare ((s : Int) - 1074) (t - 1074)).then (Ord.compare m n) =
      Ord.compare (s * pow2 52 + m) (t * pow2 52 + n) := by
  obtain ⟨_, significand, _, full⟩ := one
  obtain ⟨_, significand', _, full'⟩ := two
  simp only [pow2, Nat.pow_eq]
  rcases Nat.lt_trichotomy s t with less | rfl | more
  · have exponents : Ord.compare ((s : Int) - 1074) (t - 1074) = .lt := Int.compare_eq_lt.mpr (by omega)
    have sizes : Ord.compare (s * 2 ^ 52 + m) (t * 2 ^ 52 + n) = .lt := Nat.compare_eq_lt.mpr (by omega)
    rw [exponents, sizes]
    rfl
  · have exponents : Ord.compare ((s : Int) - 1074) (s - 1074) = .eq := Int.compare_eq_eq.mpr rfl
    rw [exponents, Ordering.eq_then, Nat.compare_eq_ite_lt, Nat.compare_eq_ite_lt]
    simp
  · have exponents : Ord.compare ((s : Int) - 1074) (t - 1074) = .gt := Int.compare_eq_gt.mpr (by omega)
    have sizes : Ord.compare (s * 2 ^ 52 + m) (t * 2 ^ 52 + n) = .gt := Nat.compare_eq_gt.mpr (by omega)
    rw [exponents, sizes]
    rfl

theorem compare_signed (k l : Nat) : Ord.compare (signedSize negative k) (signedSize other l) =
    match negative, other with
    | false, false => Ord.compare k l
    | true, true => Ord.compare l k
    | false, true => if k = 0 ∧ l = 0 then .eq else .gt
    | true, false => if k = 0 ∧ l = 0 then .eq else .lt := by
  cases negative <;> cases other <;> simp only [signedSize, Int.compare_eq_ite_lt, Nat.compare_eq_ite_lt] <;> grind

theorem Canonical.size_pos (canonical : Canonical m s) : 0 < s * pow2 52 + m :=
  Nat.add_pos_right _ canonical.positive

theorem Sized.compare (one : Sized f negative k) (two : Sized g other l) :
    f.compare g = some (Ord.compare (signedSize negative k) (signedSize other l)) := by
  rw [compare_signed]
  have most : infinityBits ≠ 0 := by decide
  cases one with
  | zero =>
    cases two with
    | zero => cases negative <;> cases other <;> rfl
    | finite canonical =>
      have some := canonical.size_pos
      generalize _ * pow2 52 + _ = size at *
      cases negative <;> cases other <;>
        simp [UnpackedFloat.compare, signOf, some.ne', Nat.compare_eq_lt.mpr some, Nat.compare_eq_gt.mpr some]
    | infinity => cases negative <;> cases other <;> rfl
  | finite canonical =>
    have some := canonical.size_pos
    have less := canonical.size_lt
    cases two with
    | zero =>
      generalize _ * pow2 52 + _ = size at *
      cases negative <;> cases other <;>
        simp [UnpackedFloat.compare, signOf, some.ne', Nat.compare_eq_lt.mpr some, Nat.compare_eq_gt.mpr some]
    | finite another =>
      have sizes := canonical.compare another
      generalize _ * pow2 52 + _ = size at *
      cases negative <;> cases other <;> simp [UnpackedFloat.compare, signOf, some.ne', sizes, Nat.compare_swap]
    | infinity =>
      generalize _ * pow2 52 + _ = size at *
      cases negative <;> cases other <;>
        simp [UnpackedFloat.compare, signOf, most, Nat.compare_eq_lt.mpr less, Nat.compare_eq_gt.mpr less]
  | infinity =>
    cases two with
    | zero => cases negative <;> cases other <;> rfl
    | finite canonical =>
      have less := canonical.size_lt
      generalize _ * pow2 52 + _ = size at *
      cases negative <;> cases other <;>
        simp [UnpackedFloat.compare, signOf, most, Nat.compare_eq_lt.mpr less, Nat.compare_eq_gt.mpr less]
    | infinity => cases negative <;> cases other <;> rfl

theorem lt_iff_signed (one : x.isNaN = false) (two : y.isNaN = false) : x < y ↔ signed x < signed y := by
  have model : x < y ↔ x.toModel.unpack.lt y.toModel.unpack = true := decide_eq_true_iff
  rw [model, UnpackedFloat.lt, (sized_unpack one).compare (sized_unpack two)]
  simp [signed, Int.compare_eq_lt]

theorem le_iff_signed (one : x.isNaN = false) (two : y.isNaN = false) : x ≤ y ↔ signed x ≤ signed y := by
  have model : x ≤ y ↔ x.toModel.unpack.le y.toModel.unpack = true := decide_eq_true_iff
  rw [model, UnpackedFloat.le, (sized_unpack one).compare (sized_unpack two)]
  simp [signed, Int.isLE_compare]

theorem beq_iff_signed (one : x.isNaN = false) (two : y.isNaN = false) : (x == y) = true ↔ signed x = signed y := by
  have model : (x == y) = x.toModel.unpack.beq y.toModel.unpack := rfl
  rw [model, UnpackedFloat.beq, (sized_unpack one).compare (sized_unpack two)]
  simp [signed]

-- The order in which equal numbers differ by their sign: by value, and -0 before 0.
def TotalLe (x y : Float) : Prop := x < y ∨ (x == y) = true ∧ (isNegative y = true → isNegative x = true)

theorem size_lt (x : Float) : size x < pow2 63 := Nat.mod_lt _ (by decide)

theorem orderKey_eq (x : Float) :
    orderKey x = if isNegative x then pow2 63 - 1 - size x else pow2 63 + size x := by
  have bounded : x.toBits.toNat < 2 ^ 64 := x.toBits.toNat_lt
  have parts : x.toBits.toNat = pow2 63 * (x.toBits.toNat / pow2 63) + size x := (Nat.div_add_mod _ _).symm
  unfold orderKey isNegative
  dsimp only
  by_cases low : x.toBits.toNat < pow2 63
  · rw [if_pos low, Nat.div_eq_of_lt low, size, Nat.mod_eq_of_lt low]
    rfl
  · have high : x.toBits.toNat / pow2 63 = 1 := by
      simp only [pow2, Nat.pow_eq] at low ⊢
      omega
    rw [high] at parts ⊢
    rw [if_neg low, parts]
    simp only [pow2, Nat.pow_eq]
    simp
    omega

theorem orderKey_injective (same : orderKey x = orderKey y) : x = y := by
  have low := size_lt x
  have low' := size_lt y
  rw [orderKey_eq, orderKey_eq] at same
  have parts : isNegative x = isNegative y ∧ size x = size y := by grind
  rw [← ofSize_toBits x, ← ofSize_toBits y]
  change ofSize (isNegative x) (size x) = ofSize (isNegative y) (size y)
  rw [parts.1, parts.2]

theorem totalLe_iff (one : x.isNaN = false) (two : y.isNaN = false) : TotalLe x y ↔ orderKey x ≤ orderKey y := by
  have low := size_lt x
  have low' := size_lt y
  rw [TotalLe, lt_iff_signed one two, beq_iff_signed one two, orderKey_eq, orderKey_eq, signed, signed]
  cases isNegative x <;> cases isNegative y <;> simp only [signedSize] <;> grind

end BenchCharts.Number
