namespace BenchCharts.Csv

structure Position where
  byte : Nat
  line : Nat
deriving DecidableEq, Repr

def Position.start : Position := ⟨0, 1⟩

def lineFeed : UInt8 := 10
def carriageReturn : UInt8 := 13
def quote : UInt8 := 34
def comma : UInt8 := 44

def endsRecord (b : UInt8) : Bool := b == lineFeed || b == carriageReturn

def Position.past (p : Position) (b : UInt8) : Position :=
  ⟨p.byte + 1, if b = lineFeed then p.line + 1 else p.line⟩

structure Record where
  start : Position
  fields : List (List UInt8)
deriving DecidableEq, Repr

inductive Mode where
  | between
  | opening
  | bare
  | quoted
  | closing
deriving DecidableEq, Repr

structure Reader where
  mode : Mode
  begun : Position
  here : Position
  fields : List (List UInt8)
  field : List UInt8
deriving DecidableEq, Repr

namespace Reader

def initial (begun here : Position) : Reader := ⟨.between, begun, here, [], []⟩

def record (r : Reader) : Record := ⟨r.begun, (r.field.reverse :: r.fields).reverse⟩

def endField (r : Reader) : Reader := { r with mode := .opening, fields := r.field.reverse :: r.fields, field := [] }
def keep (r : Reader) (mode : Mode) (b : UInt8) : Reader := { r with mode, field := b :: r.field }

def bareByte (r : Reader) (b : UInt8) : Reader × Option Record :=
  if b = comma then (r.endField, none)
  else if endsRecord b then (initial r.here r.here, some r.record)
  else (r.keep .bare b, none)

-- A quote counts only as the first byte of a field; inside, a doubled quote stands for one, and text
-- behind the closing quote goes on as a bare field.
def feed (r : Reader) (b : UInt8) : Reader × Option Record :=
  let r := { r with here := r.here.past b }
  match r.mode with
  | .between =>
    if endsRecord b then (r, none)
    else if b = quote then ({ r with mode := .quoted }, none)
    else r.bareByte b
  | .opening => if b = quote then ({ r with mode := .quoted }, none) else r.bareByte b
  | .bare => r.bareByte b
  | .quoted => if b = quote then ({ r with mode := .closing }, none) else (r.keep .quoted b, none)
  | .closing => if b = quote then (r.keep .quoted b, none) else r.bareByte b

def finish (r : Reader) : List Record := if r.mode = .between then [] else [r.record]

def records (r : Reader) : List UInt8 → List Record
  | [] => r.finish
  | b :: rest =>
    match r.feed b with
    | (next, some record) => record :: records next rest
    | (next, none) => records next rest

end Reader

def records : List UInt8 → List Record
  | 0xEF :: 0xBB :: 0xBF :: rest => (Reader.initial .start ⟨3, 1⟩).records rest
  | bytes => (Reader.initial .start .start).records bytes

end BenchCharts.Csv
