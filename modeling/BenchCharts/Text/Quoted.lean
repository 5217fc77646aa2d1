import BenchCharts.Text.Hidden

namespace BenchCharts.Text

def lowerHex (n : Nat) : String := .ofList (Nat.toDigits 16 n)

def quotedChar (c : Char) : String :=
  if c = '"' then "\\\"" else if c = '\\' then "\\\\"
  else if c = '\n' then "\\n" else if c = '\t' then "\\t" else if c = '\r' then "\\r"
  else if c.toNat = 0 then "\\0"
  else if isHidden c then "\\u\x7b" ++ lowerHex c.toNat ++ "\x7d"
  else c.toString

def quoted (s : String) : String := "\"" ++ String.join (s.toList.map quotedChar) ++ "\""

def listed (items : List String) : String := "[" ++ ", ".intercalate items ++ "]"

def markupChar (c : Char) : String :=
  if c = '&' then "&amp;" else if c = '<' then "&lt;" else if c = '>' then "&gt;"
  else if c = '"' then "&quot;" else if c = '\'' then "&apos;" else c.toString

def markup (s : String) : String := String.join (s.toList.map markupChar)

def jsonChar (c : Char) : String :=
  if c = '"' then "\\\"" else if c = '\\' then "\\\\"
  else if c = '\n' then "\\n" else if c = '\t' then "\\t" else if c = '\r' then "\\r"
  else if c.toNat = 8 then "\\b" else if c.toNat = 12 then "\\f"
  else if c.toNat < 16 then "\\u000" ++ lowerHex c.toNat
  else if c.toNat < 32 then "\\u00" ++ lowerHex c.toNat
  else c.toString

def jsonString (s : String) : String := "\"" ++ String.join (s.toList.map jsonChar) ++ "\""

def spaces (n : Nat) : String := .ofList (List.replicate n ' ')

-- Columns count characters.
def padRight (width : Nat) (s : String) : String := s ++ spaces (width - s.length)
def padLeft (width : Nat) (s : String) : String := spaces (width - s.length) ++ s

end BenchCharts.Text
