namespace BenchCharts.Text.Utf8

def encode (s : String) : List UInt8 := s.toList.flatMap String.utf8EncodeChar

def continues (b : UInt8) : Bool := 0x80 ≤ b && b < 0xC0
def tail (b : UInt8) : Nat := b.toNat - 0x80

def second3 (a b : UInt8) : Bool :=
  continues b && (a != 0xE0 || 0xA0 ≤ b) && (a != 0xED || b < 0xA0)
def second4 (a b : UInt8) : Bool :=
  continues b && (a != 0xF0 || 0x90 ≤ b) && (a != 0xF4 || b < 0x90)

-- The error is the length of the longest well-formed beginning; `done` bytes stand before these.
def decodeFrom (done : Nat) : List UInt8 → Except Nat (List Char)
  | [] => .ok []
  | a :: rest =>
    if a < 0x80 then
      (decodeFrom (done + 1) rest).map (Char.ofNat a.toNat :: ·)
    else if 0xC2 ≤ a && a < 0xE0 then
      match rest with
      | b :: rest =>
        if continues b then
          (decodeFrom (done + 2) rest).map (Char.ofNat ((a.toNat - 0xC0) * 64 + tail b) :: ·)
        else .error done
      | [] => .error done
    else if 0xE0 ≤ a && a < 0xF0 then
      match rest with
      | b :: c :: rest =>
        if second3 a b && continues c then
          (decodeFrom (done + 3) rest).map
            (Char.ofNat ((a.toNat - 0xE0) * 4096 + tail b * 64 + tail c) :: ·)
        else .error done
      | _ => .error done
    else if 0xF0 ≤ a && a < 0xF5 then
      match rest with
      | b :: c :: d :: rest =>
        if second4 a b && continues c && continues d then
          (decodeFrom (done + 4) rest).map
            (Char.ofNat ((a.toNat - 0xF0) * 262144 + tail b * 4096 + tail c * 64 + tail d) :: ·)
        else .error done
      | _ => .error done
    else .error done

def decode (bytes : List UInt8) : Except Nat String := (decodeFrom 0 bytes).map .ofList

def text? (bytes : List UInt8) : Option String := (decode bytes).toOption

end BenchCharts.Text.Utf8
