import BenchCharts.Chart.Layout
import BenchCharts.Proofs.Chart.Range

namespace BenchCharts.Layout
open Number

variable {x y s e t u v w : Float} {c : BarChart} {ln : Float → Float}

theorem saturate_mono {n k : Int} (less : n ≤ k) : saturate n ≤ saturate k := by
  unfold saturate
  omega

theorem saturate_range (n : Int) : least ≤ saturate n ∧ saturate n ≤ greatest := by
  unfold saturate least greatest
  omega

theorem roundUp_finite (finite : x.isFinite = true) : roundUp x = saturate ⌈Number.value x⌉ := by
  rw [roundUp, ceil_value finite]

theorem roundUp_infinite (defined : x.isNaN = false) (unbounded : x.isFinite = false) :
    roundUp x = if signed x < 0 then least else greatest := by
  have zero := signed_zero
  have below : x < 0.0 ↔ signed x < 0 := by rw [lt_iff_signed defined (by decide), zero]
  simp only [roundUp, ceil_unbounded unbounded, defined, below]
  rfl

theorem roundUp_mono (less : x ≤ y) : roundUp x ≤ roundUp y := by
  have some : 0 < infinityBits := by decide
  obtain ⟨one, two, order⟩ := le_exact.mp less
  cases left : x.isFinite with
  | true =>
    rw [roundUp_finite left]
    cases right : y.isFinite with
    | true =>
      rw [roundUp_finite right]
      exact saturate_mono (Int.ceil_mono ((value_le_iff left right).mpr less))
    | false =>
      have low := (signed_finite left).1
      have high : ¬signed y < 0 := by rcases signed_infinite two right with top | bottom <;> omega
      rw [roundUp_infinite two right, if_neg high]
      exact (saturate_range _).2
  | false =>
    rw [roundUp_infinite one left]
    cases right : y.isFinite with
    | true =>
      have high := (signed_finite right).2
      have low : signed x < 0 := by rcases signed_infinite one left with top | bottom <;> omega
      rw [roundUp_finite right, if_pos low]
      exact (saturate_range _).1
    | false =>
      rw [roundUp_infinite two right]
      split_ifs
      · exact le_rfl
      · decide
      · omega
      · exact le_rfl

def risen (c : BarChart) (t : Float) : Int :=
  if t.isInf then if 0.0 < t then top c else bottom - 1
  else bottom - 1 + roundUp (Float.ofInt (top c - (bottom - 1)) * t - 0.001)

theorem pixel_risen (apart : (s == e) = false) :
    pixel v s e (bottom - 1) (top c) = risen c ((v - s) / (e - s)) := by
  have up : ¬0 < top c - (bottom - 1) := by
    unfold top bottom
    split <;> decide
  simp only [pixel, apart, Bool.false_eq_true, if_false, up, risen]

theorem risen_base (flat : t = undefined ∨ t = 0.0 ∨ t = -0.0) : risen c t = bottom - 1 := by
  unfold risen top
  cases c.title.isSome <;> rcases flat with rfl | rfl | rfl <;> decide +kernel

-- Above the top everything is drawn at the top, so it does not matter that an infinite share ends there.
theorem risen_antitone (start : 0.0 ≤ t) (less : t ≤ u) :
    max (top c) (min bottom (risen c u)) ≤ max (top c) (min bottom (risen c t)) := by
  have zero := signed_zero
  have some : 0 < infinityBits := by decide
  obtain ⟨_, one, low⟩ := le_exact.mp start
  obtain ⟨_, two, order⟩ := le_exact.mp less
  rw [zero] at low
  cases right : u.isFinite with
  | false =>
    have above : 0.0 < u := by
      rw [lt_exact, zero]
      refine ⟨by decide, two, ?_⟩
      rcases signed_infinite two right with top | bottom <;> omega
    have highest : risen c u = top c := by
      rw [risen, if_pos ((infinite_iff two).mpr right), if_pos above]
    omega
  | true =>
    have left : t.isFinite = true := by
      by_contra unbounded
      have high := (signed_finite right).2
      rcases signed_infinite one (Bool.eq_false_iff.mpr unbounded) with top | bottom <;> omega
    have first : ¬t.isInf = true := by simp [infinite_iff one, left]
    have second : ¬u.isInf = true := by simp [infinite_iff two, right]
    have extent : (Float.ofInt (top c - (bottom - 1))).isFinite = true ∧ Float.ofInt (top c - (bottom - 1)) ≤ 0.0 := by
      unfold top
      cases c.title.isSome <;> decide
    have pixels := roundUp_mono (sub_mono (by decide : (0.001 : Float).isFinite = true)
      (mul_antitone extent.1 extent.2 left right less))
    rw [risen, risen, if_neg first, if_neg second]
    omega

theorem share_nonnegative (finite : s.isFinite = true) (positive : Positive (e - s)) (start : s ≤ v) :
    0.0 ≤ (v - s) / (e - s) := by
  have none : Rounds (s - s) 0 := sub_self (Number.value s) ▸ sub_rounds finite finite
  have zero : Rounds (0.0 / (e - s)) 0 := by
    have quotient := div_rounds (by decide : (0.0 : Float).isFinite = true) positive.finite positive.units
    rwa [value_zero, zero_div] at quotient
  exact zero.nonnegative (div_mono positive (none.nonnegative (sub_mono finite start)))

theorem pixel_antitone (order : s ≤ e) (start : s ≤ v) (less : v ≤ w) :
    max (top c) (min bottom (pixel w s e (bottom - 1) (top c))) ≤
      max (top c) (min bottom (pixel v s e (bottom - 1) (top c))) := by
  cases same : s == e with
  | true => simp only [pixel, same, if_true, le_refl]
  | false =>
    rw [pixel_risen same, pixel_risen same]
    cases length : (e - s).isFinite with
    | false => rw [risen_base (div_unbounded (v - s) length), risen_base (div_unbounded (w - s) length)]
    | true =>
      obtain ⟨one, two, ordered⟩ := le_exact.mp order
      have finite := (sub_finite length).2
      have apart : s < e := by
        have differ : signed s ≠ signed e := by rw [ne_eq, ← beq_iff_signed one two, same]; decide
        rw [lt_iff_signed one two]
        omega
      have positive := sub_positive apart length
      exact risen_antitone (share_nonnegative finite positive start) (div_mono positive (sub_mono finite less))

-- What is needed of a logarithm: on positive numbers it does not fall.
def Rising (ln : Float → Float) : Prop := ∀ x y : Float, 0.0 < x → x ≤ y → ln x ≤ ln y

theorem logPixel_positive (some : 0.0 < s) (order : s < e) {a b : Int} :
    logPixel ln v s e a b = pixel (ln v) (ln s) (ln e) a b := by
  have zero := signed_zero
  obtain ⟨origin, one, low⟩ := lt_exact.mp some
  obtain ⟨_, two, less⟩ := lt_exact.mp order
  have first : ¬s < 0.0 := by
    rw [lt_iff_signed one origin]
    omega
  have second : ¬e < 0.0 := by
    rw [lt_iff_signed two origin]
    omega
  have apart : ¬(s == 0.0) = true := by
    rw [beq_iff_signed one origin]
    omega
  simp [logPixel, first, second, order, apart]

theorem yPixel_antitone (rising : Rising ln) (order : c.yRange.1 < c.yRange.2)
    (raised : c.axis = .log → 0.0 < c.yRange.1) (start : c.yRange.1 ≤ v) (less : v ≤ w) :
    yPixel ln c w ≤ yPixel ln c v := by
  have ordered := le_of_less order
  unfold yPixel
  dsimp only
  cases axis : c.axis with
  | linear => exact pixel_antitone ordered start less
  | log =>
    have some := raised axis
    dsimp only
    rw [logPixel_positive some order, logPixel_positive some order]
    exact pixel_antitone (rising _ _ some ordered) (rising _ _ some start) (rising _ _ (lt_chain some start) less)

end BenchCharts.Layout
