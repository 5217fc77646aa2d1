import BenchCharts.Yaml.Token

namespace BenchCharts.Yaml

inductive Node where
  | scalar (text : String) (plain : Bool)
  | sequence (items : List Node)
  | mapping (entries : List (Node × Node))

namespace Node

def empty : Node := .scalar "" true

def endsBlockItem : List Token → Bool
  | .entry :: _ | .blockEnd :: _ => true
  | _ => false

def endsIndentless : List Token → Bool
  | .entry :: _ | .key :: _ | .value :: _ | .blockEnd :: _ => true
  | _ => false

def endsBlockPart : List Token → Bool
  | .key :: _ | .value :: _ | .blockEnd :: _ => true
  | _ => false

def endsFlowKey : List Token → Bool
  | .value :: _ | .flowEntry :: _ | .flowSequenceEnd :: _ | .flowMappingEnd :: _ => true
  | _ => false

def endsFlowValue : List Token → Bool
  | .flowEntry :: _ | .flowSequenceEnd :: _ | .flowMappingEnd :: _ => true
  | _ => false

mutual

-- A node. Block collections are taken only where a block may begin, and a sequence without
-- indentation of its own only as a part of a block mapping.
def read? : Nat → Bool → Bool → List Token → Option (Node × List Token)
  | 0, _, _, _ => none
  | fuel + 1, block, indentless, ts =>
    match ts with
    | .scalar text plain :: rest => some (.scalar text plain, rest)
    | .flowSequence :: rest => flowItems? fuel true [] rest
    | .flowMapping :: rest => flowEntries? fuel true [] rest
    | .blockSequence :: rest => if block then blockItems? fuel [] rest else none
    | .blockMapping :: rest => if block then blockEntries? fuel [] rest else none
    | .entry :: _ => if indentless then indentlessItems? fuel [] ts else none
    | _ => none

def blockItems? : Nat → List Node → List Token → Option (Node × List Token)
  | 0, _, _ => none
  | fuel + 1, items, ts =>
    match ts with
    | .entry :: rest =>
      if endsBlockItem rest then blockItems? fuel (.empty :: items) rest
      else
        match read? fuel true false rest with
        | some (item, rest) => blockItems? fuel (item :: items) rest
        | none => none
    | .blockEnd :: rest => some (.sequence items.reverse, rest)
    | _ => none

def indentlessItems? : Nat → List Node → List Token → Option (Node × List Token)
  | 0, _, _ => none
  | fuel + 1, items, ts =>
    match ts with
    | .entry :: rest =>
      if endsIndentless rest then indentlessItems? fuel (.empty :: items) rest
      else
        match read? fuel true false rest with
        | some (item, rest) => indentlessItems? fuel (item :: items) rest
        | none => none
    | _ => some (.sequence items.reverse, ts)

def blockEntries? : Nat → List (Node × Node) → List Token → Option (Node × List Token)
  | 0, _, _ => none
  | fuel + 1, entries, ts =>
    match ts with
    | .key :: rest =>
      match blockPart? fuel rest with
      | some (key, .value :: rest) =>
        match blockPart? fuel rest with
        | some (value, rest) => blockEntries? fuel ((key, value) :: entries) rest
        | none => none
      | some (key, rest) => blockEntries? fuel ((key, .empty) :: entries) rest
      | none => none
    | .blockEnd :: rest => some (.mapping entries.reverse, rest)
    | _ => none

def blockPart? : Nat → List Token → Option (Node × List Token)
  | 0, _ => none
  | fuel + 1, ts => if endsBlockPart ts then some (.empty, ts) else read? fuel true true ts

def flowItems? : Nat → Bool → List Node → List Token → Option (Node × List Token)
  | 0, _, _, _ => none
  | fuel + 1, first, items, ts =>
    match ts with
    | .flowSequenceEnd :: rest => some (.sequence items.reverse, rest)
    | _ =>
      match (if first then some ts else match ts with | .flowEntry :: rest => some rest | _ => none) with
      | some (.flowSequenceEnd :: rest) => some (.sequence items.reverse, rest)
      | some (.key :: rest) =>
        match flowPair? fuel rest with
        | some (entry, rest) => flowItems? fuel false (.mapping [entry] :: items) rest
        | none => none
      | some rest =>
        match read? fuel false false rest with
        | some (item, rest) => flowItems? fuel false (item :: items) rest
        | none => none
      | none => none

def flowEntries? : Nat → Bool → List (Node × Node) → List Token → Option (Node × List Token)
  | 0, _, _, _ => none
  | fuel + 1, first, entries, ts =>
    match ts with
    | .flowMappingEnd :: rest => some (.mapping entries.reverse, rest)
    | _ =>
      match (if first then some ts else match ts with | .flowEntry :: rest => some rest | _ => none) with
      | some (.flowMappingEnd :: rest) => some (.mapping entries.reverse, rest)
      | some (.key :: rest) =>
        match flowPair? fuel rest with
        | some (entry, rest) => flowEntries? fuel false (entry :: entries) rest
        | none => none
      | some rest =>
        match read? fuel false false rest with
        | some (key, rest) => flowEntries? fuel false ((key, .empty) :: entries) rest
        | none => none
      | none => none

def flowPair? : Nat → List Token → Option ((Node × Node) × List Token)
  | 0, _ => none
  | fuel + 1, ts =>
    match (if endsFlowKey ts then some (.empty, ts) else read? fuel false false ts) with
    | some (key, .value :: rest) =>
      match (if endsFlowValue rest then some (.empty, rest) else read? fuel false false rest) with
      | some (value, rest) => some ((key, value), rest)
      | none => none
    | some (key, rest) => some ((key, .empty), rest)
    | none => none

end

def endsDocument : List Token → Bool
  | [] | .documentStart :: _ | .documentEnd :: _ => true
  | _ => false

def ofTokens? (tokens : List Token) : Option Node := do
  let fuel := 4 * tokens.length + 4
  let (node, rest) ← match tokens with
    | [] => none
    | .documentStart :: rest => if endsDocument rest then some (.empty, rest) else read? fuel true false rest
    | _ => read? fuel true false tokens
  if (rest.dropWhile (· == .documentEnd)).isEmpty then some node else none

def parse? (text : String) : Option Node := do ofTokens? (← tokens? text)

end Node
end BenchCharts.Yaml
