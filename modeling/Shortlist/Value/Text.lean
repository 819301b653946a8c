import Shortlist.Text.Quoted
import Shortlist.Text.Split
import Shortlist.Value.Basic

/-! # The text of a value

How a value reads inside a sentence: words for the constants, shortest decimals for doubles, and
lists and records in brackets with their texts quoted.
-/

namespace Shortlist.Value

/-- Doubles are positional from `0.0001` to below `10 ^ 16`, and exponents have two digits. -/
def layout : Decimal.Layout where
  positionalFrom := -4
  positionalBelow := 16
  exponentWidth := 2
  infinity := "inf"
  nan := "nan"

mutual

/-- A value as it stands inside a list or a record. -/
def inner : Value → String
  | .null => "None"
  | .bool b => if b then "True" else "False"
  | .int n => toString n
  | .float x => layout.write x
  | .text s => Text.quoted s
  | .time t => t.clockText " " ++ (t.offset.map Moment.offsetText).getD ""
  | .list items => "[" ++ Text.join ", " (innerItems items) ++ "]"
  | .record fields => "\x7b" ++ Text.join ", " (innerFields fields) ++ "\x7d"

def innerItems : List Value → List String
  | [] => []
  | v :: rest => inner v :: innerItems rest

def innerFields : List (String × Value) → List String
  | [] => []
  | (name, v) :: rest => (Text.quoted name ++ ": " ++ inner v) :: innerFields rest

end

/-- A value by itself; a text stands without quotes. -/
def plain : Value → String
  | .text s => s
  | v => inner v

/-- What kind of value it is, as messages say it. -/
def kindName : Value → String
  | .null => "NoneType"
  | .bool _ => "bool"
  | .int _ => "int"
  | .float _ => "float"
  | .text _ => "str"
  | .time _ => "datetime.datetime"
  | .list _ => "list"
  | .record _ => "dict"

/-- The message that two values do not go together, after its beginning. -/
def mismatch (beginning : String) (a b : Value) : String :=
  beginning ++ " '" ++ a.kindName ++ "' and '" ++ b.kindName ++ "'"

end Shortlist.Value
