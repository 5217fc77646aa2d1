import BenchCharts.Yaml.Placed

namespace BenchCharts.Yaml

-- Blanks next to a break are dropped.
inductive Gap where
  | none
  | blanks (text : List Char)
  | breaks (first : Option Char) (more : List Char)
deriving DecidableEq, Repr

namespace Gap

def isBroken : Gap → Bool
  | .breaks .. => true
  | _ => false

def blank (gap : Gap) (c : Char) : Gap :=
  match gap with
  | .none => .blanks [c]
  | .blanks text => .blanks (text ++ [c])
  | .breaks first more => .breaks first more

def lineBreak (gap : Gap) (c : Char) : Gap :=
  match gap with
  | .breaks first more => .breaks first (more ++ [c])
  | _ => .breaks (some c) []

def text : Gap → List Char
  | .none => []
  | .blanks text => text
  | .breaks first more =>
    match first with
    | some '\n' => if more.isEmpty then [' '] else more
    | some c => c :: more
    | Option.none => more

end Gap

structure Scanned where
  text : String
  broken : Bool
  rest : List Placed

def endsFlowScalar (c : Char) : Bool := c == ',' || c == '[' || c == ']' || c == '{' || c == '}'

-- Where a plain scalar stops at a character that is no blank. After a gap a comment, a document
-- mark or a lower column end it; a colon before a gap always does.
def stopsPlain (flow : Bool) (indent : Int) (gap : Gap) (p : Placed) (rest : List Placed) : Bool :=
  p.char == endMark ||
  (gap != .none && ((!flow && (p.column : Int) < indent) || p.char == '#' ||
    isDocumentMark '-' (p :: rest) || isDocumentMark '.' (p :: rest))) ||
  (p.char == ':' && isGap (peek rest)) ||
  (flow && endsFlowScalar p.char)

def scanPlain? (flow : Bool) (indent : Int) (text : List Char) (gap : Gap) : List Placed → Option Scanned
  | [] => some ⟨.ofList text.reverse, gap.isBroken, []⟩
  | p :: rest =>
    if isBreak p.char then scanPlain? flow indent text (gap.lineBreak p.char) rest
    else if isBlank p.char then
      if gap.isBroken && p.char == '\t' && (p.column : Int) < indent then none
      else scanPlain? flow indent text (gap.blank p.char) rest
    else if stopsPlain flow indent gap p rest then some ⟨.ofList text.reverse, gap.isBroken, p :: rest⟩
    else if flow && p.char == ':' && (endsFlowScalar (peek rest) || peek rest == '?') then none
    else scanPlain? flow indent (p.char :: (gap.text.reverse ++ text)) .none rest

inductive Pending where
  | none
  | escape
  | digits (left value : Nat)
  | quote
deriving DecidableEq, Repr

def escaped? (c : Char) : Option Char :=
  match c with
  | '0' => some '\x00'
  | 'a' => some '\x07'
  | 'b' => some '\x08'
  | 't' | '\t' => some '\t'
  | 'n' => some '\n'
  | 'v' => some '\x0b'
  | 'f' => some '\x0c'
  | 'r' => some '\r'
  | 'e' => some '\x1b'
  | ' ' => some ' '
  | '"' => some '"'
  | '/' => some '/'
  | '\\' => some '\\'
  | 'N' => some '\u0085'
  | '_' => some '\u00a0'
  | 'L' => some '\u2028'
  | 'P' => some '\u2029'
  | _ => none

def escapeDigits? (c : Char) : Option Nat :=
  match c with
  | 'x' => some 2
  | 'u' => some 4
  | 'U' => some 8
  | _ => none

def hexDigit? (c : Char) : Option Nat :=
  if c.isDigit then some (c.toNat - '0'.toNat)
  else if 'a' ≤ c && c ≤ 'f' then some (c.toNat - 'a'.toNat + 10)
  else if 'A' ≤ c && c ≤ 'F' then some (c.toNat - 'A'.toNat + 10)
  else none

def scanQuoted? (single : Bool) (text : List Char) (gap : Gap) (pending : Pending) : List Placed → Option Scanned
  | [] => none
  | p :: rest =>
    let c := p.char
    match pending with
    | .digits left value =>
      match hexDigit? c with
      | none => none
      | some d =>
        let value := 16 * value + d
        if left ≤ 1 then
          if h : value.isValidChar then
            scanQuoted? single (Char.ofNatAux value h :: text) gap .none rest
          else none
        else scanQuoted? single text gap (.digits (left - 1) value) rest
    | .escape =>
      if isBreak c then scanQuoted? single text (.breaks Option.none []) .none rest
      else
        match escapeDigits? c, escaped? c with
        | some n, _ => scanQuoted? single text gap (.digits n 0) rest
        | none, some e => scanQuoted? single (e :: text) gap .none rest
        | none, none => none
    | .quote =>
      if c = '\'' then scanQuoted? single ('\'' :: text) gap .none rest
      else some ⟨.ofList text.reverse, false, p :: rest⟩
    | .none =>
      if c = endMark || isDocumentMark '-' (p :: rest) || isDocumentMark '.' (p :: rest) then none
      else if isBreak c then scanQuoted? single text (gap.lineBreak c) .none rest
      else if isBlank c then scanQuoted? single text (gap.blank c) .none rest
      else
        let text := gap.text.reverse ++ text
        if single && c = '\'' then scanQuoted? single text .none .quote rest
        else if !single && c = '"' then some ⟨.ofList text.reverse, false, rest⟩
        else if !single && c = '\\' then scanQuoted? single text .none .escape rest
        else scanQuoted? single (c :: text) .none .none rest

end BenchCharts.Yaml
