import Shortlist.Text.Split
import Shortlist.Validation.Basic
import Shortlist.Value.Text

/-! # Failures

What goes wrong in screening candidates, by kind. A failure has a message for people, a code and
details for programs, and a cause if another error led to it. A fault is anything that ends an
operation: a failure, values that do not fit, an error of another part, or cancellation. Errors of
other parts have a kind and a text; the text is left empty where no message is made of it, and of
violations and of an undecodable text it says less than their own messages do.
-/

namespace Shortlist

inductive FailureKind where
  | general
  | validation
  | notFound
  | profileNotReady
  | database
  | configuration
  | externalService
  | responseParse
deriving DecidableEq, Repr

namespace FailureKind

def name : FailureKind → String
  | .general => "ScreeningBaseException"
  | .validation => "ValidationError"
  | .notFound => "NotFoundError"
  | .profileNotReady => "ProfileNotReadyError"
  | .database => "DatabaseError"
  | .configuration => "ConfigurationError"
  | .externalService => "ExternalServiceError"
  | .responseParse => "ResponseParseError"

def code : FailureKind → String
  | .general => "ScreeningBaseException"
  | .validation => "VALIDATION_ERROR"
  | .notFound => "NOT_FOUND"
  | .profileNotReady => "PROFILE_NOT_READY"
  | .database => "DATABASE_ERROR"
  | .configuration => "CONFIGURATION_ERROR"
  | .externalService => "EXTERNAL_SERVICE_ERROR"
  | .responseParse => "RESPONSE_PARSE_ERROR"

/-- The status under which a failure is answered over HTTP. -/
def status : FailureKind → Nat
  | .general => 500
  | .validation => 400
  | .notFound => 404
  | .profileNotReady => 409
  | .database => 500
  | .configuration => 400
  | .externalService => 502
  | .responseParse => 502

def all : List FailureKind :=
  [.general, .validation, .notFound, .profileNotReady, .database, .configuration, .externalService,
    .responseParse]

def ofName? (name : String) : Option FailureKind := all.find? (·.name == name)

end FailureKind

inductive ForeignKind where
  | runtime
  | value
  | timeout
  | attribute
  | type
  | key
  | overflow
  | recursion
  | encoding
  | undecodable
  | noConnection
  | timedOut
deriving DecidableEq, Repr

mutual

/-- A failure. Message, code and details are texts and a record, unless whoever reports the failure
gives something else for them. -/
structure Failure where
  kind : FailureKind
  code : Value
  message : Value
  details : Value
  cause : Option Cause

/-- What led to a failure: the fault itself, or what whoever reports the failure gives for it. -/
inductive Cause where
  | fault (fault : Fault)
  | given (value : Value)

inductive Fault where
  | failure (f : Failure)
  | invalid (violations : List Violation)
  | foreign (kind : ForeignKind) (text : String)
  | cancelled (text : String)

end

def Failure.text (f : Failure) : String := f.message.plain

namespace Fault

def text : Fault → String
  | .failure f => f.text
  | .invalid vs => toString vs.length ++ " validation errors"
  | .foreign _ text => text
  | .cancelled text => text

/-- Cancellation is not an error: nobody handles it. -/
def isError : Fault → Bool
  | .cancelled _ => false
  | _ => true

end Fault

def Cause.text : Cause → String
  | .fault f => f.text
  | .given v => v.plain

namespace Failure

/-! ## Details -/

inductive DetailRule where
  | always
  | unlessFalsy
  | plainUnlessNull
  | excerptUnlessNull

/-- The arguments of a kind of failure that become details, and under which names. -/
def detailRules : FailureKind → List (String × String × DetailRule)
  | .general => []
  | .validation => [("field", "field", .unlessFalsy), ("value", "invalid_value", .plainUnlessNull)]
  | .notFound =>
    [("resource", "resource", .unlessFalsy), ("resource_id", "resource_id", .unlessFalsy)]
  | .profileNotReady =>
    [("resume_id", "resume_id", .always), ("status", "status", .always),
      ("reason", "reason", .unlessFalsy)]
  | .database =>
    [("operation", "operation", .unlessFalsy), ("collection", "collection", .unlessFalsy)]
  | .configuration =>
    [("config_key", "config_key", .unlessFalsy), ("config_value", "config_value", .plainUnlessNull)]
  | .externalService =>
    [("service_name", "service_name", .unlessFalsy), ("status_code", "status_code", .unlessFalsy)]
  | .responseParse =>
    [("target", "target", .unlessFalsy), ("raw_excerpt", "raw_excerpt", .excerptUnlessNull)]

def excerptLength : Nat := 200

def excerpt : Value → Value
  | .text s => .text (Text.take excerptLength s)
  | .list vs => .list (vs.take excerptLength)
  | v => v

def DetailRule.apply : DetailRule → Value → Option Value
  | .always, v => some v
  | .unlessFalsy, v => if v.isFalsy then none else some v
  | .plainUnlessNull, .null => none
  | .plainUnlessNull, v => some (.text v.plain)
  | .excerptUnlessNull, .null => none
  | .excerptUnlessNull, v => some (excerpt v)

def detailsOf (kind : FailureKind) (args : Fields) : Fields :=
  (detailRules kind).filterMap fun (argument, detail, rule) =>
    ((args.get? argument).bind rule.apply).map fun v => (detail, v)

/-! ## Construction -/

def make (kind : FailureKind) (message : String) (args : Fields) : Failure :=
  ⟨kind, .text kind.code, .text message, .record (detailsOf kind args), none⟩

def withCause (f : Failure) (fault : Fault) : Failure := { f with cause := some (.fault fault) }

def notFound (message resource id : String) : Failure :=
  make .notFound message [("resource", .text resource), ("resource_id", .text id)]

def profileNotReady (resumeId status reason : String) : Failure :=
  make .profileNotReady ("Resume profile is not ready (status: " ++ status ++ ")")
    [("resume_id", .text resumeId), ("status", .text status), ("reason", .text reason)]

def externalService (message service : String) : Failure :=
  make .externalService message [("service_name", .text service)]

/-- The failure in a form for programs. -/
def toValue (f : Failure) : Value :=
  .record <|
    [("error_type", .text f.kind.name), ("error_code", f.code), ("message", f.message),
        ("details", f.details)] ++
      (f.cause.map fun c => ("cause", .text c.text)).toList

def detail (f : Failure) : Value := .record [("error", f.toValue), ("message", f.message)]

end Failure

end Shortlist
