import Shortlist.Failure.Basic

/-! # Failures from named arguments

A failure can be described by its kind and named arguments. Arguments that a kind needs have to be
there, and no others than it knows may be.
-/

namespace Shortlist.Failure

def neededArguments : FailureKind → List String
  | .profileNotReady => ["resume_id", "status"]
  | _ => ["message"]

def knownArguments (kind : FailureKind) : List String :=
  neededArguments kind ++ (detailRules kind).map Prod.fst ++ ["details", "cause"] ++
    if kind = .general then ["error_code"] else []

/-- Nothing can be cut from an argument that is no sequence. -/
def isExcerptable : Value → Bool
  | .null | .text _ | .list _ => true
  | _ => false

namespace Arguments

/-- The details: those given as an argument, with those set that the other arguments give. Only in a
record something can be set; the failure of an unready profile always sets some. -/
def details (kind : FailureKind) (args : Fields) : Except Fault Value :=
  let more := detailsOf kind args
  match (args.get? "details").getD (.record []) with
  | .record fs => .ok (.record (Fields.merge fs more))
  | given =>
    if kind = .profileNotReady then
      .error (.foreign .attribute "")
    else if !more.isEmpty then .error (.foreign .type "")
    else .ok (if given.isFalsy then .record [] else given)

/-- The code given as an argument, that of the kind where it is missing or empty. -/
def code (kind : FailureKind) (args : Fields) : Value :=
  (((args.get? "error_code").filter (!·.isFalsy))).getD (.text kind.code)

def message (kind : FailureKind) (args : Fields) : Value :=
  let given (name : String) := (args.get? name).getD .null
  if kind = .profileNotReady then
    .text ("Resume profile is not ready (status: " ++ (given "status").plain ++ ")")
  else given "message"

/-- The cause given as an argument; a text stands for an error with that text, which always
counts. -/
def cause (args : Fields) : Option Cause :=
  match args.get? "cause" with
  | some (.text s) => some (.fault (.foreign .runtime s))
  | some v => if v.isFalsy then none else some (.given v)
  | none => none

end Arguments

def ofArguments (kind : FailureKind) (args : Fields) : Except Fault Failure :=
  let excerptable := isExcerptable ((args.get? "raw_excerpt").getD .null)
  if !(neededArguments kind).all args.has then .error (.foreign .type "")
  else if kind = .responseParse && !excerptable then .error (.foreign .type "")
  else do
    let details ← Arguments.details kind args
    if args.all fun (name, _) => (knownArguments kind).contains name then
      .ok
        { kind := kind
          code := Arguments.code kind args
          message := Arguments.message kind args
          details := details
          cause := Arguments.cause args }
    else .error (.foreign .type "")

end Shortlist.Failure
