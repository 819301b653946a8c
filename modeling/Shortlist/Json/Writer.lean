import Shortlist.Value.Text

/-! # Writing JSON

The JSON text of a value, in ASCII. Doubles are written shortest; infinities and what is no number
become strings with their names, and moments become ISO 8601 texts.
-/

namespace Shortlist.Json

open Text

def escapedUnit (n : Nat) : List Char := '\\' :: 'u' :: hexDigits 4 n

def writeChar (c : Char) : List Char :=
  if c = '"' || c = '\\' then ['\\', c]
  else if 0x20 ≤ c.toNat && c.toNat < 0x7F then [c]
  else if c.toNat < 0x10000 then escapedUnit c.toNat
  else
    let n := c.toNat - 0x10000
    escapedUnit (0xD800 + n / 0x400) ++ escapedUnit (0xDC00 + n % 0x400)

def writeString (s : String) : String :=
  "\"" ++ String.ofList (s.toList.flatMap writeChar) ++ "\""

mutual

def write : Value → String
  | .null => "null"
  | .bool b => if b then "true" else "false"
  | .int n => toString n
  | .float x =>
    let text := Value.layout.write x
    if Decimal.isFinite x then text else writeString text
  | .text s => writeString s
  | .time t => writeString t.iso
  | .list items => "[" ++ join ", " (writeItems items) ++ "]"
  | .record fields => "\x7b" ++ join ", " (writeFields fields) ++ "\x7d"

def writeItems : List Value → List String
  | [] => []
  | v :: rest => write v :: writeItems rest

def writeFields : List (String × Value) → List String
  | [] => []
  | (name, v) :: rest => (writeString name ++ ": " ++ write v) :: writeFields rest

end

end Shortlist.Json
