import BenchCharts.Number.Exact
import Mathlib

namespace BenchCharts.Number
open Float.Model Float.Model.UnpackedFloat

section Comparison

variable (a b : UnpackedFloat)

-- Sizes of two numbers of one sign.
theorem size_swap (m n : Nat) (e f : Int) :
    (compare f e).then (compare n m) = ((compare e f).then (compare m n)).swap := by
  rw [Ordering.swap_then, ← Int.compare_swap e f, ← Nat.compare_swap m n]

theorem compare_swap : b.compare a = (a.compare b).map Ordering.swap := by
  cases a with
  | notANumber => cases b <;> rfl
  | infinity s =>
    cases b with
    | infinity r => cases s <;> cases r <;> rfl
    | _ => cases s <;> rfl
  | zero s =>
    cases b with
    | notANumber => rfl
    | infinity r => cases r <;> rfl
    | zero r => rfl
    | finite r => cases r <;> rfl
  | finite s m e positive =>
    cases b with
    | notANumber => rfl
    | infinity r => cases s <;> cases r <;> rfl
    | zero r => cases s <;> rfl
    | finite r n f =>
      cases s with
      | positive =>
        cases r with
        | positive => exact congrArg some (size_swap m n e f)
        | negative => rfl
      | negative =>
        cases r with
        | positive => rfl
        | negative => exact congrArg (some ·.swap) (size_swap m n e f)

theorem compare_undefined (defined : a.isNaN = false) : a.compare b = none ↔ b.isNaN = true := by
  cases a with
  | notANumber => cases defined
  | infinity s => cases b <;> cases s <;> simp [UnpackedFloat.compare, UnpackedFloat.isNaN]
  | zero s =>
    cases b with
    | infinity r => cases r <;> simp [UnpackedFloat.compare, UnpackedFloat.isNaN]
    | finite r => cases r <;> simp [UnpackedFloat.compare, UnpackedFloat.isNaN]
    | _ => simp [UnpackedFloat.compare, UnpackedFloat.isNaN]
  | finite s =>
    cases b with
    | infinity r => cases s <;> cases r <;> simp [UnpackedFloat.compare, UnpackedFloat.isNaN]
    | finite r => cases s <;> cases r <;> simp [UnpackedFloat.compare, UnpackedFloat.isNaN]
    | _ => cases s <;> simp [UnpackedFloat.compare, UnpackedFloat.isNaN]

theorem le_iff_not (defined : a.isNaN = false) : a.le b = !(b.isNaN || b.lt a) := by
  have undefined := compare_undefined a b defined
  unfold UnpackedFloat.le UnpackedFloat.lt
  rw [compare_swap a b]
  cases found : a.compare b with
  | none => simp [undefined.mp found]
  | some order =>
    have known : b.isNaN = false := by
      rw [Bool.eq_false_iff, Ne, ← undefined, found]
      simp
    rw [known]
    cases order <;> rfl

end Comparison

theorem le_iff {w v : Float} (defined : w.isNaN = false) : w ≤ v ↔ ¬(v.isNaN = true ∨ v < w) := by
  have le : w ≤ v ↔ w.toModel.unpack.le v.toModel.unpack = true := decide_eq_true_iff
  have lt : v < w ↔ v.toModel.unpack.lt w.toModel.unpack = true := decide_eq_true_iff
  have undefined : v.isNaN = v.toModel.unpack.isNaN := rfl
  rw [le, lt, undefined, le_iff_not _ _ defined, Bool.not_eq_true', Bool.or_eq_false_iff, not_or, Bool.not_eq_true,
    Bool.not_eq_true]

-- Whole numbers are rounded, to zero or to something finite.
theorem normalize_defined (spec : Format) (m e : Int) (s : Sign) :
    (UnpackedFloat.normalize spec m e s).isNaN = false := by
  have rounded : ∀ s m e accuracy, (roundWithAccuracy spec s m e accuracy).isNaN = false := by
    intro s m e accuracy
    unfold roundWithAccuracy
    dsimp only
    split <;> rfl
  unfold UnpackedFloat.normalize
  split
  · exact rounded _ _ _ _
  · rfl
  · exact rounded _ _ _ _

theorem unpack_undefined {b : BitVec Format.binary64.numBits}
    (undefined : (UnpackedFloat.unpack .binary64 b).isNaN = true) :
    unpackExponent b = -1#11 ∧ unpackMantissa b ≠ 0#52 := by
  unfold UnpackedFloat.unpack at undefined
  dsimp only at undefined
  split at undefined
  · rename_i ones
    split at undefined
    · cases undefined
    · rename_i some
      exact ⟨ones, some⟩
  · split at undefined
    · split at undefined <;> cases undefined
    · cases undefined

-- Only the undefined value is packed with all exponent bits and a fraction.
theorem pack_defined {f : UnpackedFloat} (defined : f.isNaN = false) : (Float.Model.pack f).unpack.isNaN = false := by
  rw [Bool.eq_false_iff]
  intro undefined
  obtain ⟨ones, some⟩ := unpack_undefined undefined
  change unpackExponent (UnpackedFloat.pack .binary64 f) = _ at ones
  change unpackMantissa (UnpackedFloat.pack .binary64 f) ≠ _ at some
  revert ones some
  fun_cases UnpackedFloat.pack .binary64 f with
  | case1 => cases defined
  | case2 s => simp [packedInfinity]
  | case3 s => simp [packedZero]
  | case4 s m e positive biased large => simp [packedInfinity]
  | case5 s m e positive bits biased small normal =>
    rw [unpackExponent_packComponents]
    intro ones
    have top := congrArg BitVec.toNat ones
    simp at top small
    omega
  | case6 s m e positive bits biased small subnormal => simp

theorem toFloat_defined (n : UInt64) : n.toFloat.isNaN = false :=
  pack_defined (normalize_defined _ _ _ _)

end BenchCharts.Number
