import BenchCharts.Yaml.Scalar

namespace BenchCharts.Yaml

inductive Token where
  | documentStart
  | documentEnd
  | blockSequence
  | blockMapping
  | blockEnd
  | flowSequence
  | flowSequenceEnd
  | flowMapping
  | flowMappingEnd
  | entry
  | flowEntry
  | key
  | value
  | scalar (text : String) (plain : Bool)
deriving DecidableEq, Repr

-- A token that a colon on the same line may turn out to make a key. It has to be one when it
-- stands where the block expects its next key.
structure Candidate where
  required : Bool
  number : Nat
  place : Placed
deriving DecidableEq, Repr

-- Tokens are kept last first, and there is a slot for a candidate for each open flow collection.
structure Scanner where
  rest : List Placed
  tokens : List Token
  indent : Int
  indents : List Int
  keyAllowed : Bool
  candidate : Option Candidate
  outer : List (Option Candidate)

namespace Scanner

def initial (rest : List Placed) : Scanner := ⟨rest, [], -1, [], true, none, []⟩

def inFlow (s : Scanner) : Bool := !s.outer.isEmpty

def emit (s : Scanner) (token : Token) : Scanner := { s with tokens := token :: s.tokens }

def insert (s : Scanner) (number : Nat) (token : Token) : Scanner :=
  let later := s.tokens.length - number
  { s with tokens := s.tokens.take later ++ token :: s.tokens.drop later }

def here (s : Scanner) : Placed := s.rest.head?.getD ⟨endMark, 0, 0, 0⟩

def skip (s : Scanner) (n : Nat) : Scanner := { s with rest := s.rest.drop n }

def skipBlanks (flow allowed comment : Bool) : List Placed → Bool × List Placed
  | [] => (allowed, [])
  | p :: rest =>
    if isBreak p.char then skipBlanks flow (allowed || !flow) false rest
    else if p.char = endMark then (allowed, p :: rest)
    else if comment then skipBlanks flow allowed true rest
    else if p.char = ' ' || (p.char = '\t' && (flow || !allowed)) then skipBlanks flow allowed false rest
    else if p.char = '#' then skipBlanks flow allowed true rest
    else (allowed, p :: rest)

def toToken (s : Scanner) : Scanner :=
  let (keyAllowed, rest) := skipBlanks s.inFlow s.keyAllowed false s.rest
  { s with keyAllowed, rest }

def dropCandidate? (s : Scanner) : Option Scanner :=
  if s.candidate.any (·.required) then none else some { s with candidate := none }

def isStale (now : Placed) (c : Candidate) : Bool := c.place.line < now.line || c.place.index + 1024 < now.index

def prune? (now : Placed) (slot : Option Candidate) : Option (Option Candidate) :=
  match slot with
  | some c => if isStale now c then (if c.required then none else some none) else some (some c)
  | none => some none

def pruneCandidates? (s : Scanner) : Option Scanner := do
  let candidate ← prune? s.here s.candidate
  let outer ← s.outer.mapM (prune? s.here)
  return { s with candidate, outer }

def saveCandidate? (s : Scanner) : Option Scanner := do
  if !s.keyAllowed then return s
  let place := s.here
  let required := !s.inFlow && s.indent == (place.column : Int)
  let s ← s.dropCandidate?
  return { s with candidate := some ⟨required, s.tokens.length, place⟩ }

def closeBlocks (column : Int) (indent : Int) (tokens : List Token) : List Int → Int × List Int × List Token
  | [] => (indent, [], tokens)
  | outer :: rest =>
    if column < indent then closeBlocks column outer (.blockEnd :: tokens) rest
    else (indent, outer :: rest, tokens)

def unroll (s : Scanner) (column : Int) : Scanner :=
  if s.inFlow then s
  else
    let (indent, indents, tokens) := closeBlocks column s.indent s.tokens s.indents
    { s with indent, indents, tokens }

def roll (s : Scanner) (column number : Nat) (token : Token) : Scanner :=
  if s.inFlow || (column : Int) ≤ s.indent then s
  else { s.insert number token with indent := column, indents := s.indent :: s.indents }

def documentMark? (s : Scanner) (token : Token) : Option Scanner := do
  let s ← (s.unroll (-1)).dropCandidate?
  return ({ s with keyAllowed := false }.emit token).skip 3

def openFlow? (s : Scanner) (token : Token) : Option Scanner := do
  let s ← s.saveCandidate?
  return ({ s with outer := s.candidate :: s.outer, candidate := none, keyAllowed := true }.emit token).skip 1

def closeFlow? (s : Scanner) (token : Token) : Option Scanner := do
  let s ← s.dropCandidate?
  let s := match s.outer with
    | candidate :: outer => { s with candidate, outer }
    | [] => s
  return ({ s with keyAllowed := false }.emit token).skip 1

def flowEntry? (s : Scanner) : Option Scanner := do
  let s ← s.dropCandidate?
  return ({ s with keyAllowed := true }.emit .flowEntry).skip 1

def indicator? (s : Scanner) (opening token : Token) : Option Scanner := do
  guard (s.inFlow || s.keyAllowed)
  let s ← (s.roll s.here.column s.tokens.length opening).dropCandidate?
  return ({ s with keyAllowed := token == Token.entry || !s.inFlow }.emit token).skip 1

def value? (s : Scanner) : Option Scanner :=
  match s.candidate with
  | some c =>
    let s := (s.insert c.number .key).roll c.place.column c.number .blockMapping
    some (({ s with candidate := none, keyAllowed := false }.emit .value).skip 1)
  | none =>
    if s.inFlow then some (({ s with keyAllowed := false }.emit .value).skip 1)
    else if s.keyAllowed then
      some (((s.roll s.here.column s.tokens.length .blockMapping).emit .value).skip 1)
    else none

def quoted? (s : Scanner) (single : Bool) : Option Scanner := do
  let s ← s.saveCandidate?
  let scanned ← scanQuoted? single [] .none .none (s.rest.drop 1)
  return { s.emit (.scalar scanned.text false) with rest := scanned.rest, keyAllowed := false }

def plain? (s : Scanner) : Option Scanner := do
  let s ← s.saveCandidate?
  let scanned ← scanPlain? s.inFlow (s.indent + 1) [] .none s.rest
  return { s.emit (.scalar scanned.text true) with rest := scanned.rest, keyAllowed := scanned.broken }

def isIndicator (c : Char) : Bool := "-?:,[]\x7b\x7d#&*!|>'\"%@\x60".toList.contains c

def startsPlain (flow : Bool) (c next : Char) : Bool :=
  !(isGap c || isIndicator c) || (c == '-' && !isBlank next) ||
    (!flow && (c == '?' || c == ':') && !isGap next)

def fetch? (s : Scanner) : Option Scanner :=
  let c := s.here.char
  let next := peek (s.rest.drop 1)
  let flow := s.inFlow
  if isDocumentMark '-' s.rest then s.documentMark? .documentStart
  else if isDocumentMark '.' s.rest then s.documentMark? .documentEnd
  else if c = '[' then s.openFlow? .flowSequence
  else if c = '{' then s.openFlow? .flowMapping
  else if c = ']' then s.closeFlow? .flowSequenceEnd
  else if c = '}' then s.closeFlow? .flowMappingEnd
  else if c = ',' then s.flowEntry?
  else if c = '-' && isGap next then s.indicator? .blockSequence .entry
  else if c = '?' && (flow || isGap next) then s.indicator? .blockMapping .key
  else if c = ':' && (flow || isGap next) then s.value?
  else if c = '\'' then s.quoted? true
  else if c = '"' then s.quoted? false
  else if startsPlain flow c next then s.plain?
  else none

def finish? (s : Scanner) : Option (List Token) := do
  let s ← (s.unroll (-1)).dropCandidate?
  return s.tokens.reverse

-- Every token takes at least one character, so as many steps as there are characters suffice.
def run? : Nat → Scanner → Option (List Token)
  | 0, _ => none
  | fuel + 1, s => do
    let s ← s.toToken.pruneCandidates?
    let s := s.unroll s.here.column
    if s.here.char = endMark then s.finish? else run? fuel (← s.fetch?)

end Scanner

def tokens? (text : String) : Option (List Token) := do
  let placed ← place? text
  Scanner.run? (placed.length + 1) (.initial placed)

end BenchCharts.Yaml
