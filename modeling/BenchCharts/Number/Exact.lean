namespace BenchCharts.Number

def pow2 (n : Nat) : Nat := Nat.pow 2 n
def pow10 (n : Nat) : Nat := Nat.pow 10 n

-- A finite value is `significand * 2^shift` units of 2^-1074.
inductive Exact where
  | undefined
  | infinite (negative : Bool)
  | finite (negative : Bool) (significand shift : Nat)
deriving DecidableEq, Repr

def unitsPerOne : Nat := pow2 1074

def infinityBits : Nat := 2047 * pow2 52

def Exact.ofBits (bits : Nat) : Exact :=
  let negative := bits / pow2 63 % 2 == 1
  let exponent := bits / pow2 52 % pow2 11
  let fraction := bits % pow2 52
  if exponent = 2047 then
    if fraction = 0 then .infinite negative else .undefined
  else if exponent = 0 then .finite negative fraction 0
  else .finite negative (pow2 52 + fraction) (exponent - 1)

def exact (x : Float) : Exact := .ofBits x.toBits.toNat

def roundHalfEven (num den : Nat) : Nat :=
  let quotient := num / den
  let rest := num % den
  if 2 * rest < den then quotient
  else if den < 2 * rest then quotient + 1
  else quotient + quotient % 2

-- A carry out of the significand falls into the exponent field, where it belongs.
def nearestBits (num den : Nat) : Nat :=
  let scaled := num * unitsPerOne
  let shift := (scaled / den).log2 - 52
  min infinityBits (shift * pow2 52 + roundHalfEven scaled (den * pow2 shift))

def ofSize (negative : Bool) (bits : Nat) : Float :=
  .ofBits (UInt64.ofNat (if negative then pow2 63 + bits else bits))

def undefined : Float := .ofBits 0x7FF8000000000000

def orderKey (x : Float) : Nat :=
  let bits := x.toBits.toNat
  if bits < pow2 63 then pow2 63 + bits else pow2 64 - 1 - bits

def larger (a b : Float) : Float :=
  if a.isNaN then b else if b.isNaN then a else if a < b then b else a

def smaller (a b : Float) : Float :=
  if a.isNaN then b else if b.isNaN then a else if b < a then b else a

def floor? (x : Float) : Option Int :=
  match exact x with
  | .finite negative m s =>
    let size : Int := (m * pow2 s : Nat)
    some ((if negative then -size else size).fdiv unitsPerOne)
  | _ => none

def ceil? (x : Float) : Option Int :=
  match exact x with
  | .finite negative m s =>
    let size : Int := (m * pow2 s : Nat)
    some (-(if negative then size else -size).fdiv unitsPerOne)
  | _ => none

end BenchCharts.Number
