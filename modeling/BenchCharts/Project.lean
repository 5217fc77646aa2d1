import BenchCharts.Fault

namespace BenchCharts

structure Colour where
  red : UInt8
  green : UInt8
  blue : UInt8
deriving DecidableEq, Repr

def Colour.hex (c : Colour) : String :=
  let component (b : UInt8) : List Char :=
    [Nat.digitChar (b.toNat / 16), Nat.digitChar (b.toNat % 16)].map Char.toUpper
  "#" ++ .ofList (component c.red ++ component c.green ++ component c.blue)

structure Project where
  id : String
  name : String
  colour : Colour
deriving DecidableEq, Repr

namespace Project

def all : List Project := [
  ⟨"cheerpj", "CheerpJ", ⟨0xef, 0x82, 0x32⟩⟩,
  ⟨"gwt", "GWT", ⟨0xe5, 0x48, 0x40⟩⟩,
  ⟨"handwritten", "Handwritten WASM", ⟨0x60, 0x56, 0xe7⟩⟩,
  ⟨"javascript", "Handwritten JavaScript", ⟨0xe5, 0xd3, 0x65⟩⟩,
  ⟨"jvm", "JVM", ⟨0x5c, 0x82, 0xa0⟩⟩,
  ⟨"jwebassembly", "JWebAssembly", ⟨0x20, 0x53, 0x85⟩⟩,
  ⟨"montera", "My Project", ⟨0xec, 0x40, 0x7a⟩⟩,
  ⟨"monteraopt", "My Project (Optimised)", ⟨0xec, 0x40, 0x7a⟩⟩,
  ⟨"teavm", "TeaVM", ⟨0x00, 0xa5, 0x2b⟩⟩]

def byId? (id : String) : Option Project := all.find? (·.id == id)

def displayName (id : String) : String := ((byId? id).map (·.name)).getD id

-- Colours go by the name shown.
def colourOf (label : String) : Except Fault Colour :=
  match all.find? (·.name == label) with
  | some project => .ok project.colour
  | none => .error (.unknownProject label)

end Project
end BenchCharts
