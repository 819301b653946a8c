import Shortlist.Failure.Basic
import Shortlist.Logging.Entry

/-! # Store operations

An operation on the store has a name and a context: the ids it is about. Errors of other parts that
end it become database failures which tell both; failures and cancellation pass unchanged. Where the
operation is logged, its context goes into the entries.
-/

namespace Shortlist

structure Operation where
  /-- A text, unless whoever names the operation gives something else. -/
  name : Value
  context : Fields

namespace Operation

def wrap (op : Operation) : Fault → Fault
  | .failure f => .failure f
  | .cancelled text => .cancelled text
  | fault =>
    .failure
      { kind := .database
        code := .text FailureKind.database.code
        message := .text ("Database error in " ++ op.name.plain ++ ": " ++ fault.text)
        details :=
          .record (op.context.merge (Failure.detailsOf .database [("operation", op.name)]))
        cause := some (.fault fault) }

def log {α : Type} (op : Operation) (outcome : Except Fault α) : List LogEntry :=
  [⟨.debug, "Starting operation: " ++ op.name.plain⟩,
    match outcome with
    | .ok _ => ⟨.debug, "Operation completed: " ++ op.name.plain⟩
    | .error fault => ⟨.error, "Operation failed: " ++ op.name.plain ++ " - " ++ fault.text⟩]

/-- What an operation itself goes by; a context cannot use these names. -/
def ownNames : List String := ["self", "operation", "logger"]

/-- What keeps an operation from beginning: a name in its context that is taken by the operation or,
where it is logged, by the entries. -/
def obstacle? (op : Operation) (logged : Bool) : Option Fault :=
  if op.context.any fun (name, _) => ownNames.contains name then some (.foreign .type "")
  else if logged && op.context.any fun (name, _) => LogEntry.ownNames.contains name then
    some (.foreign .key "")
  else none

/-- Runs an operation with some outcome: what it ends with and what is logged. -/
def observe {α : Type} (op : Operation) (logged : Bool) (outcome : Except Fault α) :
    Except Fault α × List LogEntry :=
  match op.obstacle? logged with
  | some fault => (.error fault, [])
  | none => (outcome.mapError op.wrap, if logged then op.log outcome else [])

end Operation

end Shortlist
