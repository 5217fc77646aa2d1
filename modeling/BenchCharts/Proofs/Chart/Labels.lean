import BenchCharts.Chart.Basic
import BenchCharts.Proofs.Number.Monotone
import BenchCharts.Proofs.Number.Places

namespace BenchCharts.ValueLabel
open Number

variable {v w d : Float} {weight : ℚ}

def numeralOf (text : String) : Option ℚ := numeral? (text.toList.takeWhile numeric)
def unitOf (text : String) : String := .ofList (text.toList.dropWhile numeric)

def weight? (unit : String) : Option ℚ :=
  if unit = "" ∨ unit = "B" then some 1
  else if unit = "KB" then some 1000
  else if unit = "MB" then some 1000000
  else none

def denoted? (text : String) : Option ℚ := do
  let numeral ← numeralOf text
  let weight ← weight? (unitOf text)
  return numeral * weight

theorem numeralOf_fixed (finite : v.isFinite = true) (places : Nat) (unit : String) (letters : unit.toList.takeWhile numeric = []) :
    numeralOf (fixed places v ++ unit) = some ((inPlaces places v : ℚ) / pow10 places) := by
  rw [numeralOf, String.toList_append, List.takeWhile_append_of_pos (fixed_numeric finite places), letters, List.append_nil,
    numeral_fixed finite]

theorem unitOf_fixed (finite : v.isFinite = true) (places : Nat) (unit : String) (letters : unit.toList.takeWhile numeric = []) :
    unitOf (fixed places v ++ unit) = unit := by
  have kept : unit.toList.dropWhile numeric = unit.toList := by
    have parts := List.takeWhile_append_dropWhile (p := numeric) (l := unit.toList)
    rwa [letters, List.nil_append] at parts
  rw [unitOf, String.toList_append, List.dropWhile_append_of_pos (fixed_numeric finite places), kept, String.ofList_toList]

theorem denoted_fixed (finite : v.isFinite = true) (places : Nat) (unit : String) (letters : unit.toList.takeWhile numeric = [])
    (weighs : weight? unit = some weight) :
    denoted? (fixed places v ++ unit) = some ((inPlaces places v : ℚ) / pow10 places * weight) := by
  rw [denoted?, numeralOf_fixed finite places unit letters, unitOf_fixed finite places unit letters, weighs]
  rfl

structure Divisor (d : Float) : Prop where
  finite : d.isFinite = true
  large : 1.0 ≤ d

theorem thousand_divisor : Divisor 1000.0 := ⟨by decide, by decide⟩
theorem million_divisor : Divisor 1000000.0 := ⟨by decide, by decide⟩

theorem Divisor.quotient (divisor : Divisor d) (finite : v.isFinite = true) : (v / d).isFinite = true :=
  div_finite finite divisor.finite divisor.large

theorem Divisor.mono (divisor : Divisor d) (places : Nat) (one : v.isFinite = true) (two : w.isFinite = true)
    (less : v ≤ w) : inPlaces places (v / d) ≤ inPlaces places (w / d) :=
  inPlaces_mono places (divisor.quotient one) (divisor.quotient two)
    (div_mono (positive_of_large divisor.finite divisor.large) less)

theorem size_cases (finite : v.isFinite = true) :
    v < 1000.0 ∨ 1000.0 ≤ v ∧ v < 1000000.0 ∨ 1000000.0 ≤ v := by
  have thousand : (1000.0 : Float).isNaN = false := by decide
  have million : (1000000.0 : Float).isNaN = false := by decide
  have defined := defined_of_finite finite
  rw [lt_iff_signed defined thousand, le_iff_signed thousand defined, lt_iff_signed defined million,
    le_iff_signed million defined]
  omega

theorem formatBytes_low (low : v < 1000.0) : formatBytes v = fixed 0 v ++ "B" := if_pos low

theorem formatBytes_middle (more : 1000.0 ≤ v) (low : v < 1000000.0) : formatBytes v = fixed 1 (v / 1000.0) ++ "KB" := by
  rw [formatBytes, if_neg (not_less more), if_pos low]

theorem formatBytes_high (more : 1000000.0 ≤ v) : formatBytes v = fixed 1 (v / 1000000.0) ++ "MB" := by
  have thousand := le_chain (by decide : (1000.0 : Float) ≤ 1000000.0) more
  rw [formatBytes, if_neg (not_less thousand), if_neg (not_less more)]

def sizeWritten (v : Float) : Int :=
  if v < 1000.0 then inPlaces 0 v
  else if v < 1000000.0 then inPlaces 1 (v / 1000.0) * 100
  else inPlaces 1 (v / 1000000.0) * 100000

theorem denoted_formatBytes (finite : v.isFinite = true) : denoted? (formatBytes v) = some (sizeWritten v : ℚ) := by
  unfold formatBytes sizeWritten
  split_ifs
  · rw [denoted_fixed finite 0 "B" rfl rfl]
    simp [pow10]
  · rw [denoted_fixed (thousand_divisor.quotient finite) 1 "KB" rfl rfl]
    congr 1
    push_cast [pow10]
    ring
  · rw [denoted_fixed (million_divisor.quotient finite) 1 "MB" rfl rfl]
    congr 1
    push_cast [pow10]
    ring

theorem whole_units : inPlaces 0 1000.0 = 1000 ∧ inPlaces 1 (1000.0 / 1000.0) = 10 ∧
    inPlaces 1 (1000000.0 / 1000.0) = 10000 ∧ inPlaces 1 (1000000.0 / 1000000.0) = 10 := by decide +kernel

theorem sizeWritten_low (finite : v.isFinite = true) (low : v < 1000.0) :
    sizeWritten v = inPlaces 0 v ∧ inPlaces 0 v ≤ 1000 := by
  refine ⟨if_pos low, ?_⟩
  rw [← whole_units.1]
  exact inPlaces_mono 0 finite (by decide) (le_of_less low)

theorem sizeWritten_middle (finite : v.isFinite = true) (more : 1000.0 ≤ v) (low : v < 1000000.0) :
    sizeWritten v = inPlaces 1 (v / 1000.0) * 100 ∧ 10 ≤ inPlaces 1 (v / 1000.0) ∧ inPlaces 1 (v / 1000.0) ≤ 10000 := by
  obtain ⟨_, first, last, _⟩ := whole_units
  refine ⟨?_, ?_, ?_⟩
  · rw [sizeWritten, if_neg (not_less more), if_pos low]
  · rw [← first]
    exact thousand_divisor.mono 1 (by decide) finite more
  · rw [← last]
    exact thousand_divisor.mono 1 finite (by decide) (le_of_less low)

theorem sizeWritten_high (finite : v.isFinite = true) (more : 1000000.0 ≤ v) :
    sizeWritten v = inPlaces 1 (v / 1000000.0) * 100000 ∧ 10 ≤ inPlaces 1 (v / 1000000.0) := by
  obtain ⟨_, _, _, first⟩ := whole_units
  have thousand : (1000.0 : Float) ≤ 1000000.0 := by decide
  refine ⟨?_, ?_⟩
  · rw [sizeWritten, if_neg (not_less (le_chain thousand more)), if_neg (not_less more)]
  · rw [← first]
    exact million_divisor.mono 1 (by decide) finite more

-- Within a unit the order is that of the rounded quotients, and from one unit to the next the labels of
-- the first value of the larger unit stand between.
theorem sizeWritten_mono (one : v.isFinite = true) (two : w.isFinite = true) (less : v ≤ w) :
    sizeWritten v ≤ sizeWritten w := by
  obtain low | ⟨more, low⟩ | high := size_cases one
  · obtain ⟨written, most⟩ := sizeWritten_low one low
    obtain low | ⟨more, low⟩ | high := size_cases two
    · rw [written, (sizeWritten_low two low).1]
      exact inPlaces_mono 0 one two less
    · have larger := sizeWritten_middle two more low
      omega
    · have larger := sizeWritten_high two high
      omega
  · obtain ⟨written, _, most⟩ := sizeWritten_middle one more low
    obtain low | ⟨_, low⟩ | high := size_cases two
    · exact absurd low (not_less (le_chain more less))
    · rw [written, (sizeWritten_middle two (le_chain more less) low).1]
      exact Int.mul_le_mul_of_nonneg_right (thousand_divisor.mono 1 one two less) (by decide)
    · have larger := sizeWritten_high two high
      omega
  · rw [(sizeWritten_high one high).1, (sizeWritten_high two (le_chain high less)).1]
    exact Int.mul_le_mul_of_nonneg_right (million_divisor.mono 1 one two less) (by decide)

theorem labels_ordered (label : ValueLabel) (one : v.isFinite = true) (two : w.isFinite = true) (less : v ≤ w) :
    ∃ p q, denoted? (label.format v) = some p ∧ denoted? (label.format w) = some q ∧ p ≤ q := by
  cases label with
  | bytes => exact ⟨_, _, denoted_formatBytes one, denoted_formatBytes two, Int.cast_le.mpr (sizeWritten_mono one two less)⟩
  | seconds =>
    have denoted {x : Float} (finite : x.isFinite = true) :
        denoted? (format .seconds x) = some ((inPlaces 2 x : ℚ) / pow10 2 * 1) := by
      rw [← denoted_fixed finite 2 "" rfl rfl, String.append_empty]
      rfl
    have cents := (Int.cast_le (R := ℚ)).mpr (inPlaces_mono 2 one two less)
    refine ⟨_, _, denoted one, denoted two, ?_⟩
    rw [mul_one, mul_one]
    exact div_le_div_of_nonneg_right cents (Nat.cast_nonneg _)

theorem labels_ordered_thousand : (999.5 : Float).isFinite = true ∧ (1000.0 : Float).isFinite = true ∧
    (999.5 : Float) ≤ 1000.0 ∧
    ∃ p q, denoted? (format .bytes 999.5) = some p ∧ denoted? (format .bytes 1000.0) = some q ∧ p ≤ q :=
  ⟨by decide, by decide, by decide, labels_ordered .bytes (by decide) (by decide) (by decide)⟩

theorem unit_edges : inPlaces 0 999.4999999999999 < 1000 ∧ 1000 ≤ inPlaces 0 999.5 ∧
    inPlaces 1 (999949.9999999999 / 1000.0) < 10000 ∧ 10000 ≤ inPlaces 1 (999950.0 / 1000.0) := by decide +kernel

theorem bytes_below (finite : v.isFinite = true) : inPlaces 0 v < 1000 ↔ v < 999.5 := by
  have last : (999.4999999999999 : Float).isFinite = true := by decide
  obtain ⟨before, reached, _⟩ := unit_edges
  exact below_iff (fun _ _ => inPlaces_mono 0) last (by decide) (by decide) before reached finite

theorem kilobytes_below (finite : v.isFinite = true) : inPlaces 1 (v / 1000.0) < 10000 ↔ v < 999950.0 := by
  have last : (999949.9999999999 : Float).isFinite = true := by decide
  obtain ⟨_, _, before, reached⟩ := unit_edges
  exact below_iff (f := fun v => inPlaces 1 (v / 1000.0)) (fun _ _ => thousand_divisor.mono 1) last (by decide) (by decide)
    before reached finite

theorem formatBytes_thousand (finite : v.isFinite = true) (more : 999.5 ≤ v) (low : v < 1000.0) :
    formatBytes v = "1000B" := by
  have most := (sizeWritten_low finite low).2
  have least := mt (bytes_below finite).mp (not_less more)
  have whole : inPlaces 0 v = (1000 : Nat) := by omega
  rw [formatBytes_low low, fixed_inPlaces finite (by decide) whole]
  decide +kernel

theorem formatBytes_million (finite : v.isFinite = true) (more : 999950.0 ≤ v) (low : v < 1000000.0) :
    formatBytes v = "1000.0KB" := by
  have middle := le_chain (by decide : (1000.0 : Float) ≤ 999950.0) more
  have most := (sizeWritten_middle finite middle low).2.2
  have least := mt (kilobytes_below finite).mp (not_less more)
  have whole : inPlaces 1 (v / 1000.0) = (10000 : Nat) := by omega
  rw [formatBytes_middle middle low, fixed_inPlaces (thousand_divisor.quotient finite) (by decide) whole]
  decide +kernel

theorem thousand_parts : unitOf "1000B" = "B" ∧ numeralOf "1000B" = some 1000 ∧
    unitOf "1000.0KB" = "KB" ∧ numeralOf "1000.0KB" = some 1000 := by decide +kernel

theorem numeral_bound (finite : v.isFinite = true)
    (small : unitOf (formatBytes v) = "B" ∨ unitOf (formatBytes v) = "KB") :
    ∃ n, numeralOf (formatBytes v) = some n ∧ n ≤ 1000 ∧ (n < 1000 ↔ v < 999.5 ∨ 1000.0 ≤ v ∧ v < 999950.0) := by
  obtain low | ⟨more, low⟩ | high := size_cases finite
  · have apart : ¬1000.0 ≤ v := fun more => not_less more low
    refine ⟨inPlaces 0 v, ?_, ?_, ?_⟩
    · rw [formatBytes_low low, numeralOf_fixed finite 0 "B" rfl]
      simp [pow10]
    · exact_mod_cast (sizeWritten_low finite low).2
    · simp only [apart, false_and, or_false, ← bytes_below finite]
      exact_mod_cast Iff.rfl
  · have apart : ¬v < 999.5 := not_less (le_chain (by decide : (999.5 : Float) ≤ 1000.0) more)
    have tenths : ((pow10 1 : Nat) : ℚ) = 10 := by simp [pow10]
    refine ⟨inPlaces 1 (v / 1000.0) / 10, ?_, ?_, ?_⟩
    · rw [formatBytes_middle more low, numeralOf_fixed (thousand_divisor.quotient finite) 1 "KB" rfl, tenths]
    · have most : (inPlaces 1 (v / 1000.0) : ℚ) ≤ 10000 := by exact_mod_cast (sizeWritten_middle finite more low).2.2
      linarith
    · have whole : (1000 : ℚ) * 10 = (10000 : Int) := by norm_num
      simp only [apart, more, true_and, false_or, ← kilobytes_below finite]
      rw [div_lt_iff₀ (by norm_num), whole, Int.cast_lt]
  · rw [formatBytes_high high, unitOf_fixed (million_divisor.quotient finite) 1 "MB" rfl] at small
    exact absurd small (by decide)

theorem numeral_below_next (finite : v.isFinite = true)
    (small : unitOf (formatBytes v) = "B" ∨ unitOf (formatBytes v) = "KB") :
    ∃ n, numeralOf (formatBytes v) = some n ∧ n ≤ 1000 ∧ (n < 1000 ↔ v < 999.5 ∨ 1000.0 ≤ v ∧ v < 999950.0) ∧
      (999.5 ≤ v → v < 1000.0 → formatBytes v = "1000B" ∧ unitOf (formatBytes v) = "B" ∧ n = 1000) ∧
      (999950.0 ≤ v → v < 1000000.0 → formatBytes v = "1000.0KB" ∧ unitOf (formatBytes v) = "KB" ∧ n = 1000) := by
  obtain ⟨n, shown, most, below⟩ := numeral_bound finite small
  obtain ⟨bytes, thousand, kilobytes, million⟩ := thousand_parts
  refine ⟨n, shown, most, below, ?_, ?_⟩
  · intro more low
    have text := formatBytes_thousand finite more low
    rw [text, thousand, Option.some.injEq] at shown
    exact ⟨text, text ▸ bytes, shown.symm⟩
  · intro more low
    have text := formatBytes_million finite more low
    rw [text, million, Option.some.injEq] at shown
    exact ⟨text, text ▸ kilobytes, shown.symm⟩

-- On both sides of the last size that is written with fewer than a thousand kilobytes.
theorem numeral_below_next_kilobytes :
    ((999949.0 : Float).isFinite = true ∧ unitOf (formatBytes 999949.0) = "KB" ∧
      ∃ n, numeralOf (formatBytes 999949.0) = some n ∧ n ≤ 1000 ∧
        (n < 1000 ↔ (999949.0 : Float) < 999.5 ∨ (1000.0 : Float) ≤ 999949.0 ∧ (999949.0 : Float) < 999950.0)) ∧
    (999960.0 : Float).isFinite = true ∧ unitOf (formatBytes 999960.0) = "KB" ∧
      numeralOf (formatBytes 999960.0) = some 1000 := by
  have below : (999949.0 : Float).isFinite = true := by decide
  have beyond : (999960.0 : Float).isFinite = true := by decide
  have unit {v : Float} (finite : v.isFinite = true) (more : 1000.0 ≤ v) (low : v < 1000000.0) :
      unitOf (formatBytes v) = "KB" := by
    rw [formatBytes_middle more low, unitOf_fixed (thousand_divisor.quotient finite) 1 "KB" rfl]
  have kilobytes := unit below (by decide) (by decide)
  have kilobytes' := unit beyond (by decide) (by decide)
  obtain ⟨n, shown, most, fewer, _⟩ := numeral_below_next below (.inr kilobytes)
  obtain ⟨_, shown', _, _, _, band⟩ := numeral_below_next beyond (.inr kilobytes')
  obtain ⟨_, _, rfl⟩ := band (by decide) (by decide)
  exact ⟨⟨below, kilobytes, n, shown, most, fewer⟩, beyond, kilobytes', shown'⟩

-- The first sizes that are written as a whole one of the next unit.
theorem whole_units_written : formatBytes 999.5 = "1000B" ∧ formatBytes 999950.0 = "1000.0KB" ∧
    ¬∀ v : Float, v.isFinite = true → 0.0 ≤ v → (unitOf (formatBytes v) = "B" ∨ unitOf (formatBytes v) = "KB") →
      ∃ n, numeralOf (formatBytes v) = some n ∧ n < 1000 := by
  have texts : formatBytes 999.5 = "1000B" ∧ formatBytes 999950.0 = "1000.0KB" := by decide +kernel
  obtain ⟨unit, thousand, _⟩ := thousand_parts
  refine ⟨texts.1, texts.2, ?_⟩
  intro below
  obtain ⟨n, shown, less⟩ := below 999.5 (by decide) (by decide) (.inl (texts.1 ▸ unit))
  rw [texts.1, thousand, Option.some.injEq] at shown
  exact absurd less (by rw [← shown]; norm_num)

end BenchCharts.ValueLabel
