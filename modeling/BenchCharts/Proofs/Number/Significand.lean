import BenchCharts.Proofs.Number.Rounding

namespace BenchCharts.Number
open Float.Model Float.Model.UnpackedFloat

variable {em : ExtendedMantissa} {num den value unit M m s : Nat} {e : Int} {acc : Accuracy} {negative : Bool}

structure Reads (em : ExtendedMantissa) (num den : Nat) : Prop where
  positive : 0 < den
  places : 2 * num / den = 2 * em.mantissa + em.roundBit.toNat
  more : em.stickyBit = true ↔ 2 * num % den ≠ 0

theorem Reads.halves (reads : Reads em num den) : 2 * num = den * (2 * em.mantissa + em.roundBit.toNat) + 2 * num % den := by
  rw [← reads.places]
  exact (Nat.div_add_mod _ _).symm

theorem Reads.quotient (reads : Reads em num den) : num / den = em.mantissa := by
  have half : num / den = 2 * num / den / 2 := by
    rw [Nat.div_div_eq_div_mul, Nat.mul_comm den 2, Nat.mul_div_mul_left _ _ (by decide)]
  have bit := em.roundBit.toNat_le
  have places := reads.places
  omega

theorem Reads.rest (reads : Reads em num den) : 2 * (num % den) = den * em.roundBit.toNat + 2 * num % den := by
  have halves := reads.halves
  have whole := Nat.div_add_mod num den
  rw [reads.quotient] at whole
  have parts : den * (2 * em.mantissa + em.roundBit.toNat) = 2 * (den * em.mantissa) + den * em.roundBit.toNat := by ring
  omega

theorem Reads.shift (reads : Reads em num den) : Reads em.shiftRightOne num (2 * den) := by
  have rest := reads.rest
  have positive := reads.positive
  refine ⟨Nat.mul_pos (by decide) positive, ?_, ?_⟩
  · rw [Nat.mul_div_mul_left _ _ (by decide), reads.quotient]
    simp only [ExtendedMantissa.shiftRightOne]
    rcases Nat.mod_two_eq_zero_or_one em.mantissa with even | odd
    · simp [even]
      omega
    · simp [odd]
      omega
  · have more := reads.more
    rw [Nat.mul_mod_mul_left]
    simp only [ExtendedMantissa.shiftRightOne, Bool.or_eq_true, more]
    cases bit : em.roundBit <;> simp [bit] at rest ⊢ <;> omega

theorem Reads.shifts (reads : Reads em num den) (n : Nat) : Reads (em >>> n) num (den * 2 ^ n) := by
  induction n with
  | zero =>
    rw [Nat.pow_zero, Nat.mul_one]
    exact reads
  | succ n ih =>
    rw [show den * 2 ^ (n + 1) = 2 * (den * 2 ^ n) by ring]
    exact ih.shift

theorem Reads.rounded (reads : Reads em num den) : em.roundedMantissa = roundHalfEven num den := by
  have rest := reads.rest
  have low := Nat.mod_lt (2 * num) reads.positive
  have more := reads.more
  unfold roundHalfEven
  dsimp only
  rw [reads.quotient]
  obtain ⟨m, bit, sticky⟩ := em
  cases bit <;> cases sticky <;>
    simp [ExtendedMantissa.roundedMantissa, ExtendedMantissa.accuracy, Accuracy.roundToNearestEven] at * <;> grind

theorem mantissa_of (M : Nat) (acc : Accuracy) : (ExtendedMantissa.ofMantissaAndAccuracy M acc).mantissa = M := by
  rcases acc with _ | _ | _ | _ <;> rfl

theorem reads_exact (m : Nat) : Reads (.ofMantissaAndAccuracy m .exact) m 1 := by
  refine ⟨by decide, ?_, ?_⟩ <;> simp [ExtendedMantissa.ofMantissaAndAccuracy, Nat.mod_one]

theorem reads_fraction (num : Nat) (positive : 0 < den) :
    Reads (.ofMantissaAndAccuracy (num / den) (accuracyOfFraction (num % den) den)) num den := by
  have whole := Nat.div_add_mod num den
  have low := Nat.mod_lt num positive
  have places (bit rest : Nat) (sum : 2 * (num % den) = den * bit + rest) (less : rest < den) :
      2 * num / den = 2 * (num / den) + bit ∧ 2 * num % den = rest := by
    rw [Nat.div_mod_unique positive]
    refine ⟨?_, less⟩
    have parts : den * (2 * (num / den) + bit) = 2 * (den * (num / den)) + den * bit := by ring
    omega
  unfold accuracyOfFraction
  by_cases none : num % den = 0
  · obtain ⟨quotient, rest⟩ := places 0 0 (by omega) positive
    rw [if_pos none]
    exact ⟨positive, quotient, by simp [rest, ExtendedMantissa.ofMantissaAndAccuracy]⟩
  rw [if_neg none]
  rcases Nat.lt_trichotomy (2 * (num % den)) den with less | half | more
  · obtain ⟨quotient, rest⟩ := places 0 (2 * (num % den)) (by omega) less
    rw [Nat.compare_eq_lt.mpr less]
    exact ⟨positive, quotient, by simp [rest, none, ExtendedMantissa.ofMantissaAndAccuracy]⟩
  · obtain ⟨quotient, rest⟩ := places 1 0 (by omega) positive
    rw [Nat.compare_eq_eq.mpr half]
    exact ⟨positive, quotient, by simp [rest, ExtendedMantissa.ofMantissaAndAccuracy]⟩
  · obtain ⟨quotient, rest⟩ := places 1 (2 * (num % den) - den) (by omega) (by omega)
    have some : 2 * (num % den) - den ≠ 0 := by omega
    rw [Nat.compare_eq_gt.mpr more]
    exact ⟨positive, quotient, by simp [rest, some, ExtendedMantissa.ofMantissaAndAccuracy]⟩

-- The quotient at an exponent is another quotient, said of whole numbers: `e + k` is `s` above the
-- exponent of the least float.
def Worth (num den : Nat) (e : Int) (value unit : Nat) : Prop :=
  ∀ k s : Nat, (s : Int) = e + 1074 + k → num * 2 ^ s * unit = value * unitsPerOne * (den * 2 ^ k)

theorem targetExponent_eq (total : Int) : Format.binary64.targetExponent total = max (total - 53) (-1074) := rfl

theorem Worth.shifts (worth : Worth num den e value unit) (divisor : 0 < den) (k : Nat) (same : (s : Int) = e + 1074 + k)
    (full : s = 0 ∨ 2 ^ (52 + k) ≤ num / den) (bounded : num / den < 2 ^ (53 + k)) (counted : 0 < unit) : Shifts value unit s := by
  have crossed := worth k s same
  have positive : 0 < den * 2 ^ k := Nat.mul_pos divisor (Nat.two_pow_pos k)
  rw [Nat.le_div_iff_mul_le divisor] at full
  rw [Nat.div_lt_iff_lt_mul divisor] at bounded
  refine ⟨full.imp_right fun full => ?_, ?_⟩
  · apply Nat.le_of_mul_le_mul_right _ positive
    calc 2 ^ (52 + s) * unit * (den * 2 ^ k) = 2 ^ (52 + k) * den * (2 ^ s * unit) := by ring
      _ ≤ num * (2 ^ s * unit) := Nat.mul_le_mul_right _ full
      _ = num * 2 ^ s * unit := (Nat.mul_assoc _ _ _).symm
      _ = value * unitsPerOne * (den * 2 ^ k) := crossed
  · apply Nat.lt_of_mul_lt_mul_right (a := den * 2 ^ k)
    calc value * unitsPerOne * (den * 2 ^ k) = num * 2 ^ s * unit := crossed.symm
      _ = num * (2 ^ s * unit) := Nat.mul_assoc _ _ _
      _ < 2 ^ (53 + k) * den * (2 ^ s * unit) := Nat.mul_lt_mul_of_pos_right bounded (Nat.mul_pos (Nat.two_pow_pos s) counted)
      _ = 2 ^ (53 + s) * unit * (den * 2 ^ k) := by ring

theorem pack_finite (positive : 0 < m) (significand : m < 2 ^ 53) (full : s = 0 ∨ 2 ^ 52 ≤ m) :
    Float.ofModel (.pack (.finite (signOf negative) m ((s : Int) - 1074) positive)) =
      ofSize negative (min infinityBits (s * pow2 52 + m)) := by
  by_cases low : s ≤ 2045
  · have canonical : Canonical m s := ⟨positive, significand, low, full⟩
    rw [(Sized.finite canonical).pack, Nat.min_eq_right canonical.size_lt.le]
  · have large : 2 ^ 11 ≤ ((s : Int) - 1074 + Format.binary64.exponentBias + (52 : Nat)).toNat + 1 := by
      have bias : (Format.binary64.exponentBias : Int) = 1023 := by decide
      omega
    have overflow : UnpackedFloat.pack .binary64 (.finite (signOf negative) m ((s : Int) - 1074) positive) =
        UnpackedFloat.pack .binary64 (.infinity (signOf negative)) := if_pos large
    have most : infinityBits ≤ s * pow2 52 + m := by
      simp only [infinityBits, pow2, Nat.pow_eq]
      omega
    rw [Nat.min_eq_left most, ← Sized.infinity.pack, Float.Model.pack, Float.Model.pack]
    simp only [overflow]

def settle (sign : Sign) (p : ExtendedMantissa × Int) : UnpackedFloat :=
  if none : p.1.mantissa = 0 then .zero sign else .finite sign p.1.mantissa p.2 (Nat.pos_of_ne_zero none)

theorem shift_target {k : Nat} (target : Format.binary64.targetExponent (totalExponent M e) = e + k) :
    shiftToTargetExponent .binary64 M e acc = (ExtendedMantissa.ofMantissaAndAccuracy M acc >>> k, e + k) := by
  have amount : (e + k - e).toNat = k := by omega
  simp only [shiftToTargetExponent, shiftToExponent, target, amount]

-- Rounding up to a power of two leaves one bit too many, and the second shift takes it.
theorem settle_rounded {r : Nat} (most : r ≤ 2 ^ 53) (full : s = 0 ∨ 2 ^ 52 ≤ r) :
    Float.ofModel (.pack (settle (signOf negative) (shiftToTargetExponent .binary64 r ((s : Int) - 1074) .exact))) =
      ofSize negative (min infinityBits (s * pow2 52 + r)) := by
  rcases Nat.eq_or_lt_of_le most with rfl | less
  · have target : Format.binary64.targetExponent (totalExponent (2 ^ 53) ((s : Int) - 1074)) = s - 1074 + (1 : Nat) := by
      rw [targetExponent_eq, totalExponent, Nat.log2_two_pow]
      omega
    have place : (s : Int) - 1074 + (1 : Nat) = (s + 1 : Nat) - 1074 := by omega
    have same : s * pow2 52 + 2 ^ 53 = (s + 1) * pow2 52 + 2 ^ 52 := by
      simp only [pow2, Nat.pow_eq]
      omega
    rw [shift_target target, place, same]
    exact pack_finite (by decide : 0 < 2 ^ 52) (by decide) (.inr (Nat.le_refl _))
  · rcases Nat.eq_zero_or_pos r with rfl | positive
    · have none : s = 0 := full.resolve_right (by decide)
      subst none
      exact Sized.zero.pack
    · have bits := (Nat.log2_lt positive.ne').mpr less
      have target : Format.binary64.targetExponent (totalExponent r ((s : Int) - 1074)) = s - 1074 + (0 : Nat) := by
        have low := full.imp_right (Nat.le_log2 positive.ne').mpr
        rw [targetExponent_eq, totalExponent]
        omega
      have some : settle (signOf negative) (⟨r, false, false⟩, (s : Int) - 1074) =
          .finite (signOf negative) r ((s : Int) - 1074) positive := dif_neg positive.ne'
      have place : (s : Int) - 1074 + (0 : Nat) = s - 1074 := by omega
      rw [shift_target target, place]
      exact (congrArg (fun f => Float.ofModel (.pack f)) some).trans (pack_finite positive less full)

-- Rounding keeps nothing of how the quotient was written: with exponents low enough to shift right,
-- the result is the float nearest to its value.
theorem round_nearest (reads : Reads (.ofMantissaAndAccuracy M acc) num den) (worth : Worth num den e value unit)
    (divisor : 0 < unit) (low : e ≤ Format.binary64.targetExponent (totalExponent M e)) :
    Float.ofModel (.pack (roundWithAccuracy .binary64 (signOf negative) M e acc)) =
      ofSize negative (nearestBits value unit) := by
  -- `k` bits are shifted out, and `s` counts the exponents from the least one up to that of the result.
  obtain ⟨k, target⟩ : ∃ k : Nat, Format.binary64.targetExponent (totalExponent M e) = e + k :=
    (Int.le.dest low).imp fun _ sum => sum.symm
  have bits := target
  rw [targetExponent_eq, totalExponent] at bits
  obtain ⟨s, place⟩ : ∃ s : Nat, (s : Int) = e + 1074 + k := ⟨(e + 1074 + k).toNat, by omega⟩
  have quotient : num / den = M := reads.quotient.trans (mantissa_of M acc)
  have shifts : Shifts value unit s := by
    apply worth.shifts reads.positive k place ?_ ?_ divisor
    · refine (Nat.eq_zero_or_pos s).imp_right fun shifted => ?_
      have length : M.log2 = 52 + k := by omega
      have some : M ≠ 0 := by
        intro none
        simp [none] at length
        omega
      rw [quotient, ← length]
      exact Nat.log2_self_le some
    · rw [quotient]
      exact Nat.lt_log2_self.trans_le (Nat.pow_le_pow_right (by decide) (by omega))
  have rounded : (ExtendedMantissa.ofMantissaAndAccuracy M acc >>> k).roundedMantissa =
      roundHalfEven (value * unitsPerOne) (unit * pow2 s) := by
    rw [(reads.shifts k).rounded]
    apply roundHalfEven_cross (reads.shifts k).positive (Nat.mul_pos divisor (pow2_pos s))
    rw [← worth k s place, pow2, Nat.pow_eq]
    ring
  have start : e + (k : Int) = s - 1074 := by omega
  have steps : roundWithAccuracy .binary64 (signOf negative) M e acc = settle (signOf negative)
      (shiftToTargetExponent .binary64 (shiftToTargetExponent .binary64 M e acc).1.roundedMantissa
        (shiftToTargetExponent .binary64 M e acc).2 .exact) := rfl
  rw [steps, shift_target target, rounded, start, shifts.nearestBits divisor]
  exact settle_rounded (shifts.rounded_le divisor) ((Nat.eq_zero_or_pos s).imp_right (shifts.le_rounded divisor))

theorem log2_shifted (k : Nat) (some : M ≠ 0) : (M * 2 ^ k).log2 = M.log2 + k := by
  induction k with
  | zero => simp
  | succ k ih =>
    rw [show M * 2 ^ (k + 1) = 2 * (M * 2 ^ k) by ring, Nat.log2_two_mul (by simp [some]), ih]
    rfl

theorem Worth.shifted (worth : Worth num den e value unit) (k : Nat) : Worth (num * 2 ^ k) den (e - k) value unit := by
  intro j s place
  rw [← worth j (s + k) (by omega)]
  ring

-- Shifting to the left first changes neither the value nor the target.
theorem round_whole (some : M ≠ 0) (worth : Worth M 1 e value unit) (divisor : 0 < unit) :
    Float.ofModel (.pack (UnpackedFloat.round .binary64 (signOf negative) M e)) = ofSize negative (nearestBits value unit) := by
  obtain ⟨k, amount⟩ : ∃ k, (e - Format.binary64.targetExponent (totalExponent M e)).toNat = k := ⟨_, rfl⟩
  have steps : UnpackedFloat.round .binary64 (signOf negative) M e =
      roundWithAccuracy .binary64 (signOf negative) (M * 2 ^ k) (e - k) .exact := by
    simp only [UnpackedFloat.round, decreaseExponent, amount, Nat.shiftLeft_eq]
  rw [steps]
  apply round_nearest (reads_exact _) (worth.shifted k) divisor
  rw [targetExponent_eq, totalExponent, log2_shifted k some]
  rw [targetExponent_eq, totalExponent] at amount
  omega

end BenchCharts.Number
