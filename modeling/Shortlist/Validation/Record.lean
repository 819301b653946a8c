import Shortlist.Validation.Basic

/-! # Lists and records

Readings of compound values from readings of their parts. The violations of a part carry its
place and what was found there.
-/

namespace Shortlist.Validation

variable {α : Type}

/-- The items of a list, numbered from `index`. -/
def itemsFrom (check : Value → Validation α) : (index : Nat) → List Value → Validation (List α)
  | _, [] => .valid []
  | index, v :: rest =>
    List.cons <$> ((check v).about v).within (.item index) <*> itemsFrom check (index + 1) rest

def list (check : Value → Validation α) : Value → Validation (List α)
  | .list vs => itemsFrom check 0 vs
  | _ => defect .notList

/-- A record read by its fields; `otherwise` is reported for any other value. -/
def record (otherwise : Defect) (check : Fields → Validation α) : Value → Validation α
  | .record fields => check fields
  | v => (defect otherwise).about v

def required (name : String) (check : Value → Validation α) (fields : Fields) : Validation α :=
  (match fields.get? name with
    | some v => (check v).about v
    | none => (defect .missing).about (.record fields)).within (.field name)

def optional (name : String) (absent : α) (check : Value → Validation α) (fields : Fields) :
    Validation α :=
  (match fields.get? name with
    | some v => (check v).about v
    | none => .valid absent).within (.field name)

end Shortlist.Validation
