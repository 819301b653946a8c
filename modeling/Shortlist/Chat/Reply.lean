import Shortlist.Analysis.Report
import Shortlist.Failure.Basic
import Shortlist.Json.Reader

/-! # Replies

A text-generation service is asked for one JSON object, and often wraps it in prose. The whole reply
is tried first, then the slice from its first opening brace to its last closing brace.
-/

namespace Shortlist

def Json.Error.fault (e : Json.Error) : Fault :=
  match e.reason with
  | .malformed => .foreign .undecodable e.reason.message
  | .integerTooLong _ => .foreign .value e.reason.message
  | .tooDeep _ => .foreign .recursion e.reason.message

structure Target (α : Type) where
  name : String
  read : Value → Validation α

def Profile.target : Target Profile := ⟨"ResumeProfile", Profile.ofValue⟩

def Narrative.target : Target Narrative := ⟨"EnrichmentPayload", Narrative.ofValue⟩

namespace Reply

variable {α : Type}

/-- The slice from the first opening brace to the last closing brace behind it. -/
def objectSlice? (cs : List Char) : Option (List Char) :=
  let slice := Text.dropEndWhile (· ≠ '\x7d') (cs.dropWhile (· ≠ '\x7b'))
  if slice.isEmpty then none else some slice

/-- A failure to find the target in a reply; the failure shows how the reply begins. -/
def unusable (target : Target α) (message : String) (cs : List Char) : Failure :=
  .make .responseParse message
    [("target", .text target.name), ("raw_excerpt", .text (String.ofList cs))]

def decodeSlice (target : Target α) (cs slice : List Char) : Except Fault α :=
  let failure := unusable target "could not decode JSON object from service response" cs
  match Json.readChars slice with
  | .error e =>
    match e.reason with
    | .malformed => .error (.failure (failure.withCause e.fault))
    | _ => .error e.fault
  | .ok v =>
    match target.read v with
    | .valid a => .ok a
    | .invalid vs => .error (.failure (failure.withCause (.invalid vs)))

def decodeWhole? (target : Target α) (cs : List Char) : Option α :=
  match Json.readChars cs with
  | .ok v =>
    match target.read v with
    | .valid a => some a
    | .invalid _ => none
  | .error _ => none

/-- The target in a reply; a service may also send no text. -/
def decode (target : Target α) (reply : Option String) : Except Fault α :=
  let cs := Text.stripChars (reply.getD "").toList
  match decodeWhole? target cs with
  | some a => .ok a
  | none =>
    match objectSlice? cs with
    | some slice => decodeSlice target cs slice
    | none => .error (.failure (unusable target "no JSON object found in service response" cs))

end Reply

end Shortlist
