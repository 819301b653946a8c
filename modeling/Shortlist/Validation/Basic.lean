import Shortlist.Value.Basic

/-! # Validation

Reading a value as something more definite either succeeds or tells everything that is wrong with
it. Combining two readings keeps the violations of both, the first reading's first.
-/

namespace Shortlist

inductive PathStep where
  | field (name : String)
  | item (index : Nat)
deriving DecidableEq, Repr

inductive Defect where
  | missing
  | notRecord
  | notRecordLike
  | notText
  | notNumber
  | unreadableNumber
  | notInteger
  | unreadableInteger
  | fractionalInteger
  | infiniteInteger
  | oversizeInteger
  | notTruth
  | unreadableTruth
  | notList
  | notMember
  | tooLarge
  | tooSmall
  | notMoment
  | unreadableMoment
  | momentOutOfRange
  | notFile
deriving DecidableEq, Repr

def Defect.code : Defect → String
  | .missing => "missing"
  | .notRecord => "model_type"
  | .notRecordLike => "model_attributes_type"
  | .notText => "string_type"
  | .notNumber => "float_type"
  | .unreadableNumber => "float_parsing"
  | .notInteger => "int_type"
  | .unreadableInteger => "int_parsing"
  | .fractionalInteger => "int_from_float"
  | .infiniteInteger => "finite_number"
  | .oversizeInteger => "int_parsing_size"
  | .notTruth => "bool_type"
  | .unreadableTruth => "bool_parsing"
  | .notList => "list_type"
  | .notMember => "enum"
  | .tooLarge => "less_than_equal"
  | .tooSmall => "greater_than_equal"
  | .notMoment => "datetime_type"
  | .unreadableMoment => "datetime_from_date_parsing"
  | .momentOutOfRange => "datetime_parsing"
  | .notFile => "value_error"

/-- A defect, where it is, and the value that has it. What is missing leaves the defect to the
record that lacks it. -/
structure Violation where
  path : List PathStep
  defect : Defect
  found : Value

def PathStep.toValue : PathStep → Value
  | .field name => .text name
  | .item index => .int index

namespace Violation

def toValue (v : Violation) : Value :=
  .record [("loc", .list (v.path.map PathStep.toValue)), ("type", .text v.defect.code)]

def listed (vs : List Violation) : Value := .list (vs.map toValue)

end Violation

inductive Validation (α : Type) where
  | valid (a : α)
  | invalid (violations : List Violation)

namespace Validation

variable {α β : Type}

/-- A defect of a value that is still to be told. -/
def defect (d : Defect) : Validation α := .invalid [⟨[], d, .null⟩]

/-- Tells which value was read. Violations of its parts have told theirs. -/
def about (v : Value) : Validation α → Validation α
  | .valid a => .valid a
  | .invalid vs => .invalid (vs.map fun w => if w.path.isEmpty then { w with found := v } else w)

def map (f : α → β) : Validation α → Validation β
  | .valid a => .valid (f a)
  | .invalid vs => .invalid vs

/-- Applies a result to a result; of two failures all violations are kept. -/
def seq (f : Validation (α → β)) (x : Unit → Validation α) : Validation β :=
  match f, x () with
  | .valid g, .valid a => .valid (g a)
  | .valid _, .invalid vs => .invalid vs
  | .invalid vs, .valid _ => .invalid vs
  | .invalid vs, .invalid ws => .invalid (vs ++ ws)

instance : Applicative Validation where
  pure := .valid
  map := map
  seq := seq

def andThen (x : Validation α) (f : α → Validation β) : Validation β :=
  match x with
  | .valid a => f a
  | .invalid vs => .invalid vs

def within (step : PathStep) : Validation α → Validation α
  | .valid a => .valid a
  | .invalid vs => .invalid (vs.map fun v => { v with path := step :: v.path })

def toExcept : Validation α → Except (List Violation) α
  | .valid a => .ok a
  | .invalid vs => .error vs

end Validation

end Shortlist
