import Shortlist.Http.Message
import Shortlist.Logging.Monitor
import Shortlist.Occasion

/-! # Around every request

Every response carries the id of its request. What the routes do not answer themselves becomes an
error envelope. Requests are logged with their user and status, and slow ones with a warning.

Envelopes and refusals repeat values as they were found, and not every value can be written as JSON:
a fault whose account cannot be written is left without an answer.
-/

namespace Shortlist.Http

/-- The body of an error: what is common to all, overridden by what is known about this one. -/
def envelope (now : Moment) (requestId : String) (status : Int) (detail : Value) : Value :=
  let known : Fields :=
    match detail with
    | .record fs => fs
    | v => [("message", .text v.plain)]
  .record <|
    Fields.merge
      [("success", .bool false), ("timestamp", .text now.iso), ("request_id", .text requestId),
        ("status_code", .int status)]
      known

/-! ## Values that cannot be written -/

def infiniteNumber : Fault :=
  .foreign .value "Out of range float values are not JSON compliant"

/-- Moments are written only where they are known to be moments. -/
def bareMoment : Fault := .foreign .type "Object of type datetime is not JSON serializable"

mutual

/-- What keeps a value from being written as it is: the first infinite number or moment in it. -/
def unwritable? : Value → Option Fault
  | .float x => if Decimal.isFinite x then none else some infiniteNumber
  | .time _ => some bareMoment
  | .list vs => unwritableItem? vs
  | .record fs => unwritableField? fs
  | _ => none

def unwritableItem? : List Value → Option Fault
  | [] => none
  | v :: vs => (unwritable? v).orElse fun _ => unwritableItem? vs

def unwritableField? : List (String × Value) → Option Fault
  | [] => none
  | (_, v) :: fs => (unwritable? v).orElse fun _ => unwritableField? fs

end

/-- What keeps violations from being told with what was found. -/
def untold? (vs : List Violation) : Option Fault := vs.findSome? fun v => unwritable? v.found

/-! ## Envelopes -/

/-- A value as a header: only a text can be one, and it has to be in Latin-1. -/
def headerText : Value → Except Fault String
  | .text s => if s.toList.all (·.toNat < 256) then .ok s else .error (.foreign .encoding "")
  | _ => .error (.foreign .attribute "")

def envelopeResponse (now : Moment) (requestId : Value) (status : Int) (detail : Value) :
    Except Fault HttpResponse := do
  let body := envelope now requestId.plain status detail
  if let some fault := unwritable? body then .error fault
  let id ← headerText requestId
  .ok { HttpResponse.json status.toNat body with requestId := some id }

def internalError : Value :=
  .record
    [("error", .text "Internal server error"),
      ("message", .text "An unexpected error occurred. Please try again later.")]

/-- How a fault that the routes did not answer is answered: the status and what is said. -/
def faultDetail : Fault → Nat × Value
  | .failure f => (f.kind.status, f.detail)
  | .invalid vs =>
    (400,
      .record
        [("error", .text "Data validation failed"), ("validation_errors", Violation.listed vs)])
  | _ => (500, internalError)

def unanswerable? : Fault → Option Fault
  | .failure f => unwritable? f.detail
  | .invalid vs => untold? vs
  | _ => none

def faultLog (place : String) : Fault → LogEntry
  | .failure f =>
    ⟨if f.kind.status < 500 then .warning else .error,
      f.kind.name ++ " in " ++ place ++ ": " ++ f.text⟩
  | .invalid _ => ⟨.error, "Model validation failed"⟩
  | fault => ⟨.error, "Unhandled exception in " ++ place ++ ": " ++ fault.text⟩

/-- The id of a request: the one that it brings, or a fresh one. -/
def requestIdOf (o : Occasion) (r : HttpRequest) : String :=
  ((r.header? "x-request-id").filter (!·.isEmpty)).getD o.freshId

/-- How long a request took, and from when on that is slow. -/
structure Pace where
  elapsed : Reading
  threshold : Value

def defaultThreshold : Value := .float 2.0

/-- The outcome of a request whose routes ended with some outcome, and whether it was slow. A
response tells its time; a time that cannot be told is a fault. -/
def Pace.timed (p : Pace) (outcome : Except Fault HttpResponse) :
    Except Fault (HttpResponse × Bool) := do
  let response ← outcome
  let slow ← p.elapsed.passes p.threshold
  let shown ← p.elapsed.fixed 3
  .ok ({ response with processingTime := some shown }, slow)

def finish (o : Occasion) (r : HttpRequest) (pace : Pace) (outcome : Except Fault HttpResponse) :
    Except Fault HttpResponse :=
  let requestId := requestIdOf o r
  match pace.timed outcome with
  | .ok (response, _) => .ok { response with requestId := some requestId }
  | .error fault =>
    match unanswerable? fault with
    | some obstacle => .error obstacle
    | none =>
      let (status, detail) := faultDetail fault
      .ok { HttpResponse.json status (envelope o.now requestId status detail) with
        requestId := some requestId }

def log (host : String) (r : HttpRequest) (pace : Pace) (outcome : Except Fault HttpResponse) :
    List LogEntry :=
  let user := (r.header? "x-user-id").getD "anonymous"
  let place := r.method ++ " " ++ r.path
  let slowness (response : HttpResponse) : LogEntry :=
    let shown := response.processingTime.getD ""
    ⟨.warning, "Slow request: " ++ place ++ " took " ++ shown ++ "s"⟩
  ⟨.debug, "Request " ++ r.method ++ " " ++ host ++ r.target ++ " from " ++ user⟩ ::
    match pace.timed outcome with
    | .ok (response, slow) =>
      (if slow then [slowness response] else []) ++
        [⟨.info, place ++ " -> " ++ toString response.status ++ " (user " ++ user ++ ")"⟩]
    | .error fault => [faultLog place fault]

end Shortlist.Http
