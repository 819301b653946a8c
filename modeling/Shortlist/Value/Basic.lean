import Shortlist.Moment.Basic

/-! # Values

The dynamic data of documents, request bodies and replies: what JSON can say, and moments. A record
keeps its fields in the order in which they were first set; no name occurs twice.
-/

namespace Shortlist

inductive Value where
  | null
  | bool (b : Bool)
  | int (n : Int)
  | float (x : Float)
  | text (s : String)
  | time (t : Moment)
  | list (items : List Value)
  | record (fields : List (String × Value))

instance : Inhabited Value := ⟨.null⟩

/-- The fields of a record. -/
abbrev Fields := List (String × Value)

namespace Fields

def get? (name : String) : Fields → Option Value
  | [] => none
  | (n, v) :: rest => if n = name then some v else get? name rest

/-- Sets a field in its place, or adds it at the end. -/
def set (name : String) (value : Value) : Fields → Fields
  | [] => [(name, value)]
  | (n, v) :: rest => if n = name then (n, value) :: rest else (n, v) :: set name value rest

def erase (name : String) (fields : Fields) : Fields := fields.filter (·.1 ≠ name)

def merge (fields new : Fields) : Fields := new.foldl (fun fs (n, v) => set n v fs) fields

def has (name : String) (fields : Fields) : Bool := (fields.get? name).isSome

end Fields

namespace Value

/-- Emptiness as conditions see it: null, false, zero, and empty texts, lists and records. -/
def isFalsy : Value → Bool
  | .null => true
  | .bool b => !b
  | .int n => n == 0
  | .float x => x == 0.0
  | .text s => s.isEmpty
  | .time _ => false
  | .list items => items.isEmpty
  | .record fields => fields.isEmpty

def ofOption {α : Type} (f : α → Value) : Option α → Value
  | none => .null
  | some a => f a

def texts (ss : List String) : Value := .list (ss.map .text)

end Value

end Shortlist
