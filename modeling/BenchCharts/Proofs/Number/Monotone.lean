import BenchCharts.Proofs.Number.Value

namespace BenchCharts.Number
open Float.Model Float.Model.UnpackedFloat

variable {x y z : Float} {f g : UnpackedFloat}

theorem signed_bounds (defined : x.isNaN = false) : -(infinityBits : Int) ≤ signed x ∧ signed x ≤ infinityBits := by
  rw [Bool.eq_false_iff, ne_eq, isNaN_iff] at defined
  unfold signed signedSize
  split <;> omega

theorem signed_infinite (defined : x.isNaN = false) (infinite : x.isFinite = false) :
    signed x = infinityBits ∨ signed x = -(infinityBits : Int) := by
  rw [Bool.eq_false_iff, ne_eq, isNaN_iff] at defined
  rw [Bool.eq_false_iff, ne_eq, isFinite_iff] at infinite
  unfold signed signedSize
  split <;> omega

theorem signed_finite (finite : x.isFinite = true) : -(infinityBits : Int) < signed x ∧ signed x < infinityBits := by
  rw [isFinite_iff] at finite
  unfold signed signedSize
  split <;> omega

-- What keeps the order of finite floats and leaves infinite ones as they are keeps the order of all.
theorem mono_of_finite (op : Float → Float) (exactly : ℚ → ℚ) (near : ∀ x, x.isFinite = true → Rounds (op x) (exactly (value x)))
    (keeps : Monotone exactly) (far : ∀ x, x.isNaN = false → x.isFinite = false → (op x).isNaN = false ∧ signed (op x) = signed x)
    (less : x ≤ y) : op x ≤ op y := by
  obtain ⟨one, two, order⟩ := le_exact.mp less
  cases left : x.isFinite with
  | true =>
    cases right : y.isFinite with
    | true => exact (near x left).mono (near y right) (keeps ((value_le_iff left right).mpr less))
    | false =>
      obtain ⟨defined, same⟩ := far y two right
      have bound := (signed_bounds (near x left).defined).2
      have low := (signed_finite left).1
      refine le_exact.mpr ⟨(near x left).defined, defined, ?_⟩
      rcases signed_infinite two right with top | bottom <;> omega
  | false =>
    obtain ⟨defined, same⟩ := far x one left
    cases right : y.isFinite with
    | true =>
      have bound := (signed_bounds (near y right).defined).1
      have high := (signed_finite right).2
      refine le_exact.mpr ⟨defined, (near y right).defined, ?_⟩
      rcases signed_infinite one left with top | bottom <;> omega
    | false =>
      obtain ⟨defined', same'⟩ := far y two right
      exact le_exact.mpr ⟨defined, defined', by omega⟩

theorem infinite_sized (defined : x.isNaN = false) (infinite : x.isFinite = false) :
    x.toModel.unpack = .infinity (signOf (isNegative x)) ∧ size x = infinityBits := by
  have sized := sized_unpack defined
  rw [Bool.eq_false_iff, ne_eq, isFinite_iff] at infinite
  have full : size x = infinityBits := Nat.le_antisymm sized.le (not_lt.mp infinite)
  refine ⟨?_, full⟩
  generalize x.toModel.unpack = f, size x = k at sized full
  cases sized with
  | zero => exact absurd full (by decide)
  | finite canonical => exact absurd full canonical.size_lt.ne
  | infinity => rfl

theorem infinite_whole (defined : x.isNaN = false) (infinite : x.isFinite = false) :
    ofSize (isNegative x) infinityBits = x := by
  rw [← (infinite_sized defined infinite).2]
  exact ofSize_toBits x

theorem infinite_sub (finite : z.isFinite = true) (defined : x.isNaN = false) (infinite : x.isFinite = false) : x - z = x := by
  refine Eq.trans ?_ (infinite_whole defined infinite)
  rw [← Sized.infinity.pack]
  change Float.ofModel (.pack (.sub .binary64 x.toModel.unpack z.toModel.unpack)) = _
  rw [(infinite_sized defined infinite).1]
  have sized := sized_finite finite
  have bounded := isFinite_iff.mp finite
  generalize z.toModel.unpack = g, size z = k at sized bounded
  cases sized with
  | infinity => exact absurd bounded (Nat.lt_irrefl _)
  | zero => rfl
  | finite => rfl

-- The finite numbers above zero, as they are unpacked.
theorem Positive.unpacked (positive : Positive z) : ∃ m s, ∃ canonical : Canonical m s,
    z.toModel.unpack = .finite .positive m (s - 1074) canonical.positive := by
  have sized := sized_finite positive.finite
  have bounded := isFinite_iff.mp positive.finite
  have some := positive.some
  rw [positive.sign] at sized
  generalize z.toModel.unpack = g, size z = k at sized bounded some
  cases sized with
  | infinity => exact absurd bounded (Nat.lt_irrefl _)
  | zero => exact absurd some (Nat.lt_irrefl _)
  | finite canonical => exact ⟨_, _, canonical, rfl⟩

theorem infinite_div (positive : Positive z) (defined : x.isNaN = false) (infinite : x.isFinite = false) : x / z = x := by
  obtain ⟨m, s, _, unpacked⟩ := positive.unpacked
  refine Eq.trans ?_ (infinite_whole defined infinite)
  rw [← Sized.infinity.pack]
  change Float.ofModel (.pack (.div .binary64 x.toModel.unpack z.toModel.unpack)) = _
  rw [(infinite_sized defined infinite).1, unpacked]
  cases isNegative x <;> rfl

theorem infinite_mul (positive : Positive z) (defined : x.isNaN = false) (infinite : x.isFinite = false) : x * z = x := by
  obtain ⟨m, s, _, unpacked⟩ := positive.unpacked
  refine Eq.trans ?_ (infinite_whole defined infinite)
  rw [← Sized.infinity.pack]
  change Float.ofModel (.pack (.mul .binary64 x.toModel.unpack z.toModel.unpack)) = _
  rw [(infinite_sized defined infinite).1, unpacked]
  cases isNegative x <;> rfl

theorem sub_mono (finite : z.isFinite = true) (less : x ≤ y) : x - z ≤ y - z := by
  refine mono_of_finite (· - z) (· - value z) (fun x one => sub_rounds one finite)
    (fun _ _ order => sub_le_sub_right order _) ?_ less
  intro x defined infinite
  rw [infinite_sub finite defined infinite]
  exact ⟨defined, rfl⟩

theorem div_mono (positive : Positive z) (less : x ≤ y) : x / z ≤ y / z := by
  refine mono_of_finite (· / z) (· / value z)
    (fun x one => div_rounds one positive.finite positive.units)
    (fun _ _ order => div_le_div_of_nonneg_right order positive.value_pos.le) ?_ less
  intro x defined infinite
  rw [infinite_div positive defined infinite]
  exact ⟨defined, rfl⟩

theorem mul_antitone (finite : z.isFinite = true) (low : z ≤ 0.0) (one : x.isFinite = true) (two : y.isFinite = true)
    (less : x ≤ y) : z * y ≤ z * x := by
  have below : value z ≤ 0 := value_zero ▸ (value_le_iff finite (by decide)).mpr low
  apply (mul_rounds finite two).mono (mul_rounds finite one)
  exact mul_le_mul_of_nonpos_left ((value_le_iff one two).mpr less) below

theorem ceil_unbounded (unbounded : x.isFinite = false) : ceil? x = none := by
  cases stands : exact x with
  | undefined => simp [ceil?, stands]
  | infinite => simp [ceil?, stands]
  | finite negative m s =>
    obtain ⟨significand, shift, _⟩ := exact_finite stands
    have whole := float_exact x
    have low : s * pow2 52 + m < infinityBits := by
      simp only [infinityBits, pow2, Nat.pow_eq] at significand ⊢
      omega
    rw [stands, Exact.float] at whole
    rw [← whole, Bool.eq_false_iff, ne_eq, isFinite_iff, size_ofSize negative low.le] at unbounded
    exact absurd low unbounded

theorem ceil_value (finite : x.isFinite = true) : ceil? x = some ⌈value x⌉ := by
  obtain ⟨m, s, stands, units⟩ := exact_units finite
  have opposite : (if isNegative x then (unitsOf (size x) : Int) else -unitsOf (size x)) =
      -signedSize (isNegative x) (unitsOf (size x)) := by
    unfold signedSize
    split <;> simp
  have below : ⌈value x⌉ = -⌊((-signedSize (isNegative x) (unitsOf (size x)) : Int) : ℚ) / unitsPerOne⌋ := by
    rw [← Int.ceil_neg, value, Int.cast_neg, neg_div, neg_neg]
  rw [ceil?, stands]
  dsimp only
  rw [units, opposite, below, Rat.floor_intCast_div_natCast, Int.fdiv_eq_ediv_of_nonneg _ (Int.natCast_nonneg _)]

theorem infinite_iff (defined : x.isNaN = false) : x.isInf = true ↔ x.isFinite = false := by
  refine ⟨infinite_unbounded, ?_⟩
  intro unbounded
  change x.toModel.unpack.isInf = true
  rw [(infinite_sized defined unbounded).1]
  rfl

theorem unpacked_div (f : UnpackedFloat) (unbounded : g.isFinite = false) :
    f.div .binary64 g = .notANumber ∨ ∃ sign, f.div .binary64 g = .zero sign := by
  cases f <;> cases g <;> simp [UnpackedFloat.div, UnpackedFloat.isFinite] at unbounded ⊢

-- Anything over an infinite or undefined length is nothing or no number.
theorem div_unbounded (x : Float) (unbounded : z.isFinite = false) :
    x / z = undefined ∨ x / z = 0.0 ∨ x / z = -0.0 := by
  have quotient : x / z = Float.ofModel (.pack (.div .binary64 x.toModel.unpack z.toModel.unpack)) := rfl
  rw [quotient]
  rcases unpacked_div x.toModel.unpack unbounded with none | ⟨sign, zero⟩
  · rw [none]
    exact .inl (by decide)
  · rw [zero]
    cases sign <;> exact .inr (by decide)

theorem unpacked_unbounded (unbounded : (f.isFinite && g.isFinite) = false) :
    f.sub .binary64 g = .notANumber ∨ ∃ sign, f.sub .binary64 g = .infinity sign := by
  cases f with
  | notANumber => exact .inl rfl
  | infinity s =>
    cases g with
    | notANumber => exact .inl rfl
    | infinity r =>
      cases s <;> cases r
      · exact .inl rfl
      · exact .inr ⟨_, rfl⟩
      · exact .inr ⟨_, rfl⟩
      · exact .inl rfl
    | _ => exact .inr ⟨_, rfl⟩
  | _ =>
    cases g with
    | notANumber => exact .inl rfl
    | infinity => exact .inr ⟨_, rfl⟩
    | _ => cases unbounded

theorem sub_finite (finite : (x - y).isFinite = true) : x.isFinite = true ∧ y.isFinite = true := by
  rw [← Bool.and_eq_true_iff]
  by_contra unbounded
  have difference : x - y = Float.ofModel (.pack (.sub .binary64 x.toModel.unpack y.toModel.unpack)) := rfl
  rw [difference] at finite
  rcases unpacked_unbounded (Bool.eq_false_iff.mpr unbounded) with none | ⟨sign, infinite⟩
  · rw [none] at finite
    exact absurd finite (by decide)
  · rw [infinite] at finite
    cases sign <;> exact absurd finite (by decide)

theorem Rounds.nonnegative (none : Rounds x 0) (less : x ≤ y) : 0.0 ≤ y := by
  have zero := signed_zero
  have rounds : rounded 0 = 0 := by simp [rounded, nearestBits_zero, signedSize]
  obtain ⟨_, defined, order⟩ := le_exact.mp less
  rw [none.near, rounds] at order
  exact le_exact.mpr ⟨by decide, defined, zero ▸ order⟩

theorem rounded_least : rounded ((1 : ℚ) / unitsPerOne) = 1 := by
  have positive : 0 < unitsPerOne := pow2_pos _
  have units : unitsOf 1 = 1 := by decide
  have bits : nearestBits 1 unitsPerOne = 1 := by
    nth_rewrite 1 [← units]
    exact nearestBits_unitsOf (by decide)
  have whole : ((signedSize false 1 : Int) : ℚ) = 1 := by simp [signedSize]
  rw [← whole, rounded_signed false 1 positive, bits]
  rfl

-- The difference of two floats is at least the least number, so it is not rounded away.
theorem sub_positive (less : y < x) (finite : (x - y).isFinite = true) : Positive (x - y) := by
  obtain ⟨one, two⟩ := sub_finite finite
  have near := sub_rounds one two
  have step : (1 : ℚ) / unitsPerOne ≤ value x - value y := by
    have apart : ¬value x ≤ value y := by
      rw [value_le_iff one two, le_exact]
      have order := (lt_exact.mp less).2.2
      omega
    unfold value at apart ⊢
    rw [div_le_div_iff_of_pos_right unitsPerOne_pos, Int.cast_le, not_le] at apart
    rw [← sub_div]
    apply div_le_div_of_nonneg_right _ unitsPerOne_pos.le
    exact_mod_cast Int.le_sub_left_of_add_le apart
  have more : 1 ≤ signed (x - y) := by
    rw [near.near, ← rounded_least]
    exact rounded_mono step
  refine positive_exact.mpr ⟨finite, lt_exact.mpr ⟨by decide, near.defined, ?_⟩⟩
  have zero := signed_zero
  omega

theorem le_larger (one : x.isNaN = false) (two : y.isNaN = false) : x ≤ larger x y ∧ y ≤ larger x y := by
  rw [larger_exact one two]
  split_ifs with less
  · exact ⟨(le_iff_signed one two).mpr less.le, le_self two⟩
  · exact ⟨le_self one, (le_iff_signed two one).mpr (not_lt.mp less)⟩

theorem larger_le (first : x ≤ z) (second : y ≤ z) : larger x y ≤ z := by
  rw [larger_exact (le_exact.mp first).1 (le_exact.mp second).1]
  split
  · exact second
  · exact first

theorem value_nonneg (finite : x.isFinite = true) (more : 0.0 ≤ x) : 0 ≤ value x :=
  value_zero ▸ (value_le_iff (by decide) finite).mpr more

theorem le_sum (one : x.isFinite = true) (two : y.isFinite = true) (more : 0.0 ≤ y) : x ≤ x + y :=
  (rounds_value one).mono (add_rounds one two) (le_add_of_nonneg_right (value_nonneg two more))

theorem difference_le (one : x.isFinite = true) (two : y.isFinite = true) (more : 0.0 ≤ y) : x - y ≤ x :=
  (sub_rounds one two).mono (rounds_value one) (sub_le_self _ (value_nonneg two more))

theorem finite_between (low : x ≤ y) (high : y ≤ z) (one : x.isFinite = true) (two : z.isFinite = true) :
    y.isFinite = true := by
  by_contra unbounded
  obtain ⟨_, defined, below⟩ := le_exact.mp low
  obtain ⟨_, _, above⟩ := le_exact.mp high
  have start := (signed_finite one).1
  have stop := (signed_finite two).2
  rcases signed_infinite defined (Bool.eq_false_iff.mpr unbounded) with top | bottom <;> omega

-- What keeps the order is below a bound up to the first number that reaches it.
theorem below_iff {f : Float → Int} {k : Int}
    (keeps : ∀ x y : Float, x.isFinite = true → y.isFinite = true → x ≤ y → f x ≤ f y)
    (one : y.isFinite = true) (two : z.isFinite = true) (next : signed z = signed y + 1) (before : f y < k)
    (reached : k ≤ f z) (finite : x.isFinite = true) : f x < k ↔ x < z := by
  have first := defined_of_finite one
  have second := defined_of_finite two
  have defined := defined_of_finite finite
  constructor
  · intro low
    by_contra more
    rw [lt_iff_signed defined second, not_lt, ← le_iff_signed second defined] at more
    have higher := keeps z x two finite more
    omega
  · intro less
    rw [lt_iff_signed defined second] at less
    have lower := keeps x y finite one ((le_iff_signed defined first).mpr (by omega))
    omega

theorem value_one : value 1.0 = 1 := by
  have sign : isNegative 1.0 = false := by decide
  rw [value, units_one, sign]
  exact div_self unitsPerOne_pos.ne'

theorem value_large (finite : x.isFinite = true) (large : 1.0 ≤ x) : 1 ≤ value x :=
  value_one ▸ (value_le_iff (by decide) finite).mpr large

theorem Positive.le_mul (positive : Positive x) (finite : y.isFinite = true) (large : 1.0 ≤ y) : x ≤ x * y :=
  (rounds_value positive.finite).mono (mul_rounds positive.finite finite)
    (le_mul_of_one_le_right positive.value_pos.le (value_large finite large))

-- A divisor of one or more leads no farther from zero.
theorem div_finite (one : x.isFinite = true) (two : y.isFinite = true) (large : 1.0 ≤ y) : (x / y).isFinite = true := by
  have zero : (0.0 : Float).isFinite = true := by decide
  have origin : Rounds 0.0 0 := value_zero ▸ rounds_value zero
  have positive := positive_of_large two large
  have near := div_rounds one two positive.units
  have factor := value_large two large
  rcases le_total 0 (value x) with more | less
  · have low := origin.mono near (div_nonneg more positive.value_pos.le)
    have high := near.mono (rounds_value one) (div_le_self more factor)
    exact finite_between low high zero one
  · have high := near.mono origin (div_nonpos_of_nonpos_of_nonneg less positive.value_pos.le)
    have shrunk : value x ≤ value x / value y := by
      rw [le_div_iff₀ positive.value_pos]
      exact mul_le_of_one_le_right less factor
    exact finite_between ((rounds_value one).mono near shrunk) high one zero

theorem value_whole {n : Nat} (sign : isNegative x = false) (units : unitsOf (size x) = n * unitsPerOne) : value x = n := by
  rw [value, units, sign, div_eq_iff unitsPerOne_pos.ne']
  change (((n * unitsPerOne : Nat) : Int) : ℚ) = n * (unitsPerOne : ℚ)
  rw [Int.cast_natCast, Nat.cast_mul]

theorem value_two : value 2.0 = 2 := (value_whole (by decide) units_two).trans Nat.cast_ofNat

-- Only the least number has no half.
theorem half_positive (positive : Positive x) (more : 5e-324 < x) : 0.0 < x / 2.0 := by
  have zero := signed_zero
  have least : signed 5e-324 = 1 := by decide +kernel
  have small : unitsOf 2 = 2 := by decide
  have divisor : 0 < unitsOf (size 2.0) := by
    rw [units_two]
    exact Nat.mul_pos (by decide) (pow2_pos _)
  have near := div_rounds positive.finite (by decide : (2.0 : Float).isFinite = true) divisor
  have second : 2 ≤ size x := by
    have larger := (lt_exact.mp more).2.2
    rw [least, positive.signed] at larger
    omega
  have units : (2 : ℚ) ≤ unitsOf (size x) := by
    have grown := unitsOf_le second (isFinite_iff.mp positive.finite)
    rw [small] at grown
    exact_mod_cast grown
  have step : (1 : ℚ) / unitsPerOne ≤ value x / value 2.0 := by
    rw [value_two, value, positive.sign, div_right_comm]
    apply div_le_div_of_nonneg_right _ unitsPerOne_pos.le
    change (1 : ℚ) ≤ ((unitsOf (size x) : Nat) : Int) / 2
    rw [Int.cast_natCast]
    linarith
  have bound := rounded_mono step
  rw [rounded_least, ← near.near] at bound
  exact lt_exact.mpr ⟨by decide, near.defined, by omega⟩

end BenchCharts.Number
