import BenchCharts.Number.Decimal

namespace BenchCharts.Number

def zeros (n : Nat) : String := .ofList (List.replicate n '0')

-- `positional` is asked for the decimal exponent of the first digit.
structure Style where
  positional : Int → Bool
  whole : String
  plus : String
  tie : Tie := .up

namespace Style

def plain : Style := { positional := fun _ => true, whole := "", plus := "" }
def field : Style := { positional := fun e => -4 ≤ e && e < 16, whole := ".0", plus := "" }
def json : Style := { positional := fun e => -5 ≤ e && e < 16, whole := ".0", plus := "+", tie := .even }

def placed (style : Style) (digits : List Char) (point : Int) : String :=
  if point ≤ 0 then "0." ++ zeros (-point).toNat ++ .ofList digits
  else
    let n := point.toNat
    if digits.length ≤ n then .ofList digits ++ zeros (n - digits.length) ++ style.whole
    else .ofList (digits.take n) ++ "." ++ .ofList (digits.drop n)

def raised (style : Style) (digits : List Char) (exponent : Int) : String :=
  let tail := digits.drop 1
  .ofList (digits.take 1) ++ (if tail.isEmpty then "" else "." ++ .ofList tail) ++ "e" ++
    (if exponent < 0 then "-" ++ exponent.natAbs.repr else style.plus ++ exponent.natAbs.repr)

def decimal (style : Style) (d : Decimal) : String :=
  let digits := Nat.toDigits 10 d.digits
  let point : Int := digits.length + d.exponent
  if style.positional (point - 1) then style.placed digits point else style.raised digits (point - 1)

end Style

def write (style : Style) (x : Float) : String :=
  match exact x with
  | .undefined => "NaN"
  | .infinite negative => if negative then "-inf" else "inf"
  | .finite negative m s => (if negative then "-" else "") ++ style.decimal (shortest style.tie m s)

def pointed (places n : Nat) : String :=
  if places = 0 then n.repr
  else
    let tail := (n % pow10 places).repr
    (n / pow10 places).repr ++ "." ++ zeros (places - tail.length) ++ tail

-- A half goes to the even neighbour, and the sign is kept even if only zeros remain.
def fixed (places : Nat) (x : Float) : String :=
  match exact x with
  | .undefined => "NaN"
  | .infinite negative => if negative then "-inf" else "inf"
  | .finite negative m s =>
    (if negative then "-" else "") ++ pointed places (roundHalfEven (m * pow2 s * pow10 places) unitsPerOne)

end BenchCharts.Number
