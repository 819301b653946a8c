import Shortlist.Http.Actor
import Shortlist.Http.Reading
import Shortlist.Program.Basic

/-! # Sending responses

How the results and the failures of services become responses. In a result moments are sent as texts
with Z for universal time, and numbers that are not finite as null.
-/

namespace Shortlist.Http

mutual

def sendable : Value → Value
  | .time t => .text t.isoZulu
  | .float x => if Decimal.isFinite x then .float x else .null
  | .list vs => .list (sendableItems vs)
  | .record fs => .record (sendableFields fs)
  | v => v

def sendableItems : List Value → List Value
  | [] => []
  | v :: vs => sendable v :: sendableItems vs

def sendableFields : List (String × Value) → List (String × Value)
  | [] => []
  | (name, v) :: fs => (name, sendable v) :: sendableFields fs

end

def result (status : Nat) (v : Value) : HttpResponse := .json status (sendable v)

def served (p : Program HttpResponse) : Program HttpResponse :=
  p.andThen fun
    | .error (.failure f) => pure (refusal f)
    | outcome => .done outcome

def serve {α : Type} (status : Nat) (toValue : α → Value) (p : Program α) : Program HttpResponse :=
  p.andThen fun
    | .ok a => pure (result status (toValue a))
    | .error (.failure f) => pure (refusal f)
    | .error fault => .fail fault

/-- Goes on with what a request says, or answers what is wrong with it. -/
def given {α : Type} (x : Validation α) (f : α → Program HttpResponse) : Program HttpResponse :=
  match x with
  | .valid a => f a
  | .invalid vs => .ofExcept (unprocessable vs)

def withActor (r : HttpRequest) (f : Actor → Program HttpResponse) : Program HttpResponse :=
  match Actor.ofHeaders (r.header? "x-user-id") (r.header? "x-user-role") with
  | .ok actor => f actor
  | .error failure => pure (refusal failure)

/-- Refusing a form means repeating it, for which it has to be a text. -/
def unreadableForm : Fault := .foreign .value "the form is not UTF-8"

def withBody (r : HttpRequest) (f : Option Value → Actor → Program HttpResponse) :
    Program HttpResponse :=
  match bodyValue r with
  | .ok v => withActor r fun actor => if r.body.isText then f v actor else .fail unreadableForm
  | .error response => pure response

end Shortlist.Http
