namespace BenchCharts.Yaml

structure Placed where
  char : Char
  index : Nat
  line : Nat
  column : Nat
deriving DecidableEq, Repr

-- Closes every text and stands for nothing in it.
def endMark : Char := '\x00'

def isBlank (c : Char) : Bool := c == ' ' || c == '\t'

def isBreak (c : Char) : Bool := c == '\n' || c == '\u2028' || c == '\u2029'

def isGap (c : Char) : Bool := isBlank c || isBreak c || c == endMark

def isAllowed (c : Char) : Bool :=
  let n := c.toNat
  n = 0x9 || n = 0xA || n = 0xD || (0x20 ≤ n && n ≤ 0x7E) || n = 0x85 ||
    (0xA0 ≤ n && n ≤ 0xD7FF) || (0xE000 ≤ n && n ≤ 0xFFFD && n ≠ 0xFEFF) || 0x10000 ≤ n

def unifyBreaks : List Char → List Char
  | [] => []
  | '\r' :: '\n' :: rest => '\n' :: unifyBreaks rest
  | c :: rest => (if c = '\r' ∨ c = '\u0085' then '\n' else c) :: unifyBreaks rest

def placeFrom (index line column : Nat) : List Char → List Placed
  | [] => [⟨endMark, index, line, column⟩]
  | c :: rest =>
    ⟨c, index, line, column⟩ ::
      if isBreak c then placeFrom (index + 1) (line + 1) 0 rest
      else placeFrom (index + 1) line (column + 1) rest

def place? (text : String) : Option (List Placed) :=
  let chars := match text.toList with
    | '\uFEFF' :: rest => rest
    | chars => chars
  if chars.all isAllowed then some (placeFrom 0 0 0 (unifyBreaks chars)) else none

def peek (cs : List Placed) : Char := (cs.head?.map (·.char)).getD endMark

def isDocumentMark (c : Char) : List Placed → Bool
  | a :: b :: d :: after => a.column == 0 && a.char == c && b.char == c && d.char == c && isGap (peek after)
  | _ => false

end BenchCharts.Yaml
