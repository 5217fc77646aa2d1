import BenchCharts.Proofs.Number.Arithmetic

namespace BenchCharts.Number
open Float.Model Float.Model.UnpackedFloat

-- Numbers from zero up, infinity included, and what is no number.
inductive Unsigned : UnpackedFloat → Prop where
  | undefined : Unsigned .notANumber
  | zero : Unsigned (.zero .positive)
  | finite {m : Nat} {e : Int} (positive : 0 < m) : Unsigned (.finite .positive m e positive)
  | infinity : Unsigned (.infinity .positive)

variable {x y : Float} {f g : UnpackedFloat} {spec : Format} {values : List Float}

theorem Unsigned.pack_lt (unsigned : Unsigned f) : (UnpackedFloat.pack .binary64 f).toNat < pow2 63 := by
  have fields (exponent : BitVec 11) (fraction : BitVec 52) :
      (packComponents .binary64 .positive exponent fraction).toNat < pow2 63 := by
    have parts : (packComponents .binary64 .positive exponent fraction).toNat =
        exponent.toNat * pow2 52 + fraction.toNat := @packComponents_toNat false exponent fraction
    have high := exponent.isLt
    have low := fraction.isLt
    simp only [pow2, Nat.pow_eq] at parts ⊢
    omega
  cases unsigned with
  | undefined => exact fields _ _
  | zero => exact fields _ _
  | infinity => exact fields _ _
  | finite positive =>
    unfold UnpackedFloat.pack
    dsimp only
    split
    · exact fields _ _
    · split
      · exact fields _ _
      · exact fields _ _

theorem Unsigned.pack (unsigned : Unsigned f) : isNegative (Float.ofModel (.pack f)) = false := by
  have bits : (Float.ofModel (.pack f)).toBits.toNat = (UnpackedFloat.pack .binary64 f).toNat := by
    simp [Float.toBits, Float.Model.pack]
  rw [isNegative, bits, Nat.div_eq_of_lt unsigned.pack_lt]
  rfl

theorem unsigned_unpack (sign : isNegative x = false) : Unsigned x.toModel.unpack := by
  rcases unpack_cases x with ⟨undefined, _⟩ | sized
  · rw [undefined]
    exact .undefined
  · rw [sign] at sized
    generalize x.toModel.unpack = f, size x = k at sized
    cases sized with
    | zero => exact .zero
    | finite canonical => exact .finite _
    | infinity => exact .infinity

theorem unsigned_rounded (m : Nat) (e : Int) (acc : Accuracy) : Unsigned (roundWithAccuracy spec .positive m e acc) := by
  unfold roundWithAccuracy
  dsimp only
  split
  · exact .zero
  · exact .finite _

theorem unsigned_normalized {mantissa : Int} (more : 0 ≤ mantissa) (e : Int) :
    Unsigned (UnpackedFloat.normalize spec mantissa e .positive) := by
  unfold UnpackedFloat.normalize
  split
  · rename_i less
    exact absurd (Int.compare_eq_lt.mp less) (by omega)
  · exact .zero
  · exact unsigned_rounded _ _ _

theorem unsigned_square (f : UnpackedFloat) : Unsigned (f.mul spec f) := by
  cases f with
  | notANumber => exact .undefined
  | infinity sign => cases sign <;> exact .infinity
  | zero sign => cases sign <;> exact .zero
  | finite sign => cases sign <;> exact unsigned_rounded _ _ _

theorem Unsigned.add (one : Unsigned f) (two : Unsigned g) : Unsigned (f.add spec g) := by
  cases one with
  | undefined => exact .undefined
  | infinity =>
    cases two with
    | undefined => exact .undefined
    | _ => exact .infinity
  | zero =>
    cases two with
    | undefined => exact .undefined
    | zero => exact .zero
    | finite positive => exact .finite positive
    | infinity => exact .infinity
  | finite positive =>
    cases two with
    | undefined => exact .undefined
    | zero => exact .finite positive
    | infinity => exact .infinity
    | finite other => exact unsigned_normalized (Int.add_nonneg (Int.natCast_nonneg _) (Int.natCast_nonneg _)) _

-- A sum starts from the negative zero, whose sign any term without one takes away.
theorem Unsigned.first (unsigned : Unsigned g) : Unsigned ((UnpackedFloat.zero .negative).add spec g) := by
  cases unsigned with
  | undefined => exact .undefined
  | zero => exact .zero
  | finite positive => exact .finite positive
  | infinity => exact .infinity

theorem Unsigned.div (one : Unsigned f) (two : Unsigned g) : Unsigned (f.div spec g) := by
  cases one with
  | undefined => exact .undefined
  | infinity =>
    cases two with
    | undefined => exact .undefined
    | infinity => exact .undefined
    | _ => exact .infinity
  | zero =>
    cases two with
    | undefined => exact .undefined
    | zero => exact .undefined
    | _ => exact .zero
  | finite positive =>
    cases two with
    | undefined => exact .undefined
    | infinity => exact .zero
    | zero => exact .infinity
    | finite other => exact unsigned_rounded _ _ _

theorem Unsigned.sqrt (unsigned : Unsigned f) : Unsigned (f.sqrt spec) := by
  cases unsigned with
  | undefined => exact .undefined
  | zero => exact .zero
  | infinity => exact .infinity
  | finite positive => exact unsigned_rounded _ _ _

theorem square_unsigned (x : Float) : isNegative (x * x) = false := (unsigned_square x.toModel.unpack).pack

theorem div_unsigned (one : isNegative x = false) (two : isNegative y = false) : isNegative (x / y) = false :=
  ((unsigned_unpack one).div (unsigned_unpack two)).pack

theorem sqrt_unsigned (sign : isNegative x = false) : isNegative x.sqrt = false := (unsigned_unpack sign).sqrt.pack

theorem toFloat_unsigned (n : UInt64) : isNegative n.toFloat = false :=
  (unsigned_normalized (Int.natCast_nonneg n.toNat) 0).pack

theorem first_unsigned (sign : isNegative y = false) : isNegative (-0.0 + y) = false := by
  have start : (-0.0 : Float).toModel.unpack = .zero .negative := rfl
  change isNegative (Float.ofModel (.pack (.add .binary64 (-0.0 : Float).toModel.unpack y.toModel.unpack))) = false
  rw [start]
  exact (unsigned_unpack sign).first.pack

theorem foldl_unsigned (sign : isNegative x = false) (terms : ∀ y ∈ values, isNegative y = false) :
    isNegative (values.foldl (· + ·) x) = false := by
  induction values generalizing x with
  | nil => exact sign
  | cons y values ih =>
    obtain ⟨first, rest⟩ := List.forall_mem_cons.mp terms
    exact ih ((unsigned_unpack sign).add (unsigned_unpack first)).pack rest

-- The zero that has no sign.
theorem eq_zero (none : size x = 0) (sign : isNegative x = false) : x = 0.0 := by
  have whole := ofSize_toBits x
  change ofSize (isNegative x) (size x) = x at whole
  rw [none, sign] at whole
  exact whole.symm

end BenchCharts.Number
