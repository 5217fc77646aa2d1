import BenchCharts.Failure
import BenchCharts.Journal.Event
import BenchCharts.Number.Literal
import BenchCharts.Text.Letter

namespace BenchCharts

-- Zero shows nothing. Without a target the directive is for all other sources.
structure Directive where
  target : Option String
  finest : Nat
  spans : Bool
deriving DecidableEq, Repr

namespace Directive

def names : List (String × Nat) :=
  [("off", 0), ("error", 1), ("warn", 2), ("info", 3), ("debug", 4), ("trace", 5)]

def level? (text : String) : Option Nat :=
  let digits := match text.toList with
    | '+' :: rest => rest
    | cs => cs
  if !digits.isEmpty && digits.all Char.isDigit then
    let n := Number.digitsValue 0 digits
    if n ≤ 5 then some n else none
  else (names.find? (·.1 == text.map Char.toLower)).map (·.2)

inductive Stage where
  | start
  | word
  | span
  | field
  | fields
  | behindSpan
  | level
deriving DecidableEq, Repr

structure Reader where
  stage : Stage
  word : List Char
  target : Option String
  level : List Char
  spans : Bool

def finishWord (r : Reader) : Directive :=
  let word := String.ofList r.word.reverse
  match level? word with
  | some n => ⟨none, n, false⟩
  | none => ⟨some word, 5, false⟩

def finishLevel (r : Reader) : Except Reason Directive :=
  let text := String.ofList r.level.reverse
  if text.isEmpty then .ok ⟨r.target, 5, r.spans⟩
  else
    match level? text with
    | some n => .ok ⟨r.target, n, r.spans⟩
    | none => .error .badLevel

def mayStart (c : Char) : Bool := c == '-' || c == ':' || c == '_' || Text.isLetterOrNumber c

def readFrom (r : Reader) : List Char → Except Reason Directive
  | [] =>
    match r.stage with
    | .word => .ok (finishWord r)
    | .level => finishLevel r
    | .behindSpan => .ok ⟨r.target, 5, r.spans⟩
    | _ => .error .badDirective
  | c :: rest =>
    match r.stage with
    | .start =>
      if c = '[' then readFrom { r with stage := .span, spans := true } rest
      else if mayStart c then readFrom { r with stage := .word, word := [c] } rest
      else .error .badDirective
    | .word =>
      let target := some (String.ofList r.word.reverse)
      if c = '=' then readFrom { r with stage := .level, target } rest
      else if c = '[' then readFrom { r with stage := .span, target, spans := true } rest
      else if c = ',' then
        if rest.isEmpty then .ok (finishWord { r with word := c :: r.word }) else .error .badDirective
      else readFrom { r with word := c :: r.word } rest
    | .span =>
      if c = ']' then readFrom { r with stage := .behindSpan } rest
      else if c = '{' then readFrom { r with stage := .field } rest
      else readFrom r rest
    | .field =>
      if c = '}' then readFrom { r with stage := .fields } rest else readFrom r rest
    | .fields => if c = ']' then readFrom { r with stage := .behindSpan } rest else .error .badDirective
    | .behindSpan => if c = '=' then readFrom { r with stage := .level } rest else .error .badDirective
    | .level =>
      if c = ',' then
        match finishLevel r with
        | .ok directive => if rest.isEmpty then .ok directive else .error .badDirective
        | .error reason => .error reason
      else readFrom { r with level := c :: r.level } rest

def parse (text : String) : Except Reason Directive :=
  readFrom ⟨.start, [], none, [], false⟩ text.toList

def fits (d : Directive) (target : String) : Bool := !d.spans && (d.target.map (target.startsWith ·)).getD true

def weight (d : Directive) : Nat := (d.target.map fun t => t.utf8ByteSize + 1).getD 0

end Directive

structure Filter where
  directives : List Directive

namespace Filter

-- The heaviest that fits, the later of two equal ones.
def decider? (f : Filter) (target : String) : Option Directive :=
  f.directives.foldl (fun best d =>
    if !d.fits target then best
    else
      match best with
      | some b => if b.weight ≤ d.weight then some d else some b
      | none => some d) none

def isShown (f : Filter) (e : Event) : Bool :=
  (f.decider? e.target).any fun d => e.level.rank ≤ d.finest

def add (f : Filter) (d : Directive) : Filter := ⟨f.directives ++ [d]⟩

-- Directives that cannot be read are left out, and if none is left errors are shown.
def lenient (text : String) : Filter :=
  let parts := (text.splitOn ",").filter (!·.isEmpty)
  match parts.filterMap fun part => (Directive.parse part).toOption with
  | [] => ⟨[⟨none, 1, false⟩]⟩
  | directives => ⟨directives⟩

def addAll (f : Filter) : List String → Except Reason Filter
  | [] => .ok f
  | text :: rest => do (f.add (← Directive.parse text)).addAll rest

def modules : List String := ["build_time", "runtime", "binary_size", "common"]

def forRun (general : String) (asked : List String) : Except Reason Filter := do
  let f ← (lenient ("bench_report=" ++ general)).addAll asked
  f.addAll ((modules.filter fun m => !asked.any (·.startsWith m)).map (· ++ "=" ++ general))

end Filter
end BenchCharts
