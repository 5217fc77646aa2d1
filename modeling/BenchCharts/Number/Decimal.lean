import BenchCharts.Number.Exact

namespace BenchCharts.Number

structure Decimal where
  digits : Nat
  exponent : Int
deriving DecidableEq, Repr

def digitCount (n : Nat) : Nat :=
  if n < 10 then 1 else digitCount (n / 10) + 1
termination_by n

namespace Decimal

def stripped (digits : Nat) (exponent : Int) : Decimal :=
  if _ : digits ≠ 0 ∧ digits % 10 = 0 then stripped (digits / 10) (exponent + 1)
  else ⟨digits, exponent⟩
termination_by digits
decreasing_by omega

def nearest (d : Decimal) : Nat :=
  let size : Int := digitCount d.digits + d.exponent
  if d.digits = 0 ∨ size < -400 then 0
  else if 400 < size then infinityBits
  else match d.exponent with
    | .ofNat e => nearestBits (d.digits * pow10 e) 1
    | .negSucc e => nearestBits d.digits (pow10 (e + 1))

end Decimal

-- In units of 2^-1075. The ends belong to it when the significand is even.
structure Interval where
  value : Nat
  low : Nat
  high : Nat
  closed : Bool
deriving DecidableEq, Repr

inductive Tie where
  | up
  | even
deriving DecidableEq, Repr

def Tie.keeps : Tie → Nat → Bool
  | .up, _ => false
  | .even, below => below % 2 == 0

namespace Interval

def around (m s : Nat) : Interval :=
  let value := m * pow2 (s + 1)
  let below := if m = pow2 52 ∧ 0 < s then pow2 (s - 1) else pow2 s
  ⟨value, value - below, value + pow2 s, m % 2 == 0⟩

def gridUnit (g : Int) : Nat × Nat :=
  match g with
  | .ofNat e => (pow10 e * pow2 1075, 1)
  | .negSucc e => (pow2 1075, pow10 (e + 1))

def holds (i : Interval) (g : Int) (c : Nat) : Bool :=
  let (up, down) := gridUnit g
  if i.closed then i.low * down ≤ c * up && c * up ≤ i.high * down
  else i.low * down < c * up && c * up < i.high * down

def pick? (i : Interval) (tie : Tie) (g : Int) : Option Nat :=
  let (up, down) := gridUnit g
  let below := i.value * down / up
  let rest := i.value * down % up
  match i.holds g below, i.holds g (below + 1) with
  | true, true => some (if 2 * rest < up || (2 * rest == up && tie.keeps below) then below else below + 1)
  | true, false => some below
  | false, true => some (below + 1)
  | false, false => none

def magnitude (i : Interval) : Int :=
  digitCount (i.value * pow10 400 / pow2 1075) - 400

-- Seventeen digits tell every binary64 value from its neighbours, so the last case is never met.
def shortest (i : Interval) (tie : Tie) : Decimal :=
  let grid (n : Nat) : Int := i.magnitude - (n + 1)
  ((List.range 17).findSome? fun n => (i.pick? tie (grid n)).map (.stripped · (grid n))).getD ⟨0, 0⟩

end Interval

def shortest (tie : Tie) (m s : Nat) : Decimal :=
  if m = 0 then ⟨0, 0⟩ else (Interval.around m s).shortest tie

end BenchCharts.Number
