import Shortlist.Http.Envelope
import Shortlist.Json.Reader
import Shortlist.Vacancy.Basic

/-! # Reading requests

What requests ask for, read from their queries and bodies. Violations are placed in the query or in
the body.
-/

namespace Shortlist.Http

/-- The answer to violations, which repeats what was found. -/
def unprocessable (vs : List Violation) : Except Fault HttpResponse :=
  match untold? vs with
  | some fault => .error fault
  | none => .ok (.problem 422 (Violation.listed vs))

def refusal (f : Failure) : HttpResponse := .problem f.kind.status f.detail

/-- Whether a media type is JSON, parameters left aside. -/
def isJson (mediaType : String) : Bool :=
  let name := Text.lowerChars (Text.stripChars (mediaType.toList.takeWhile (· ≠ ';')))
  match Text.splitChars '/' name with
  | [kind, format] =>
    kind = "application".toList &&
      (format = "json".toList || "+json".toList.isSuffixOf format)
  | _ => false

/-- The value of a JSON body, none without a body. What cannot be read is answered at once. What is
said to be no JSON is not read, and counts as a text. -/
def bodyValue (r : HttpRequest) : Except HttpResponse (Option Value) :=
  match r.body with
  | .none => .ok none
  | .json v =>
    let mediaType := (r.header? "content-type").filter (!·.isEmpty)
    .ok (some (if mediaType.all isJson then v else .text ""))
  | .form _ => .ok (some (.text ""))
  | .raw text =>
    if text.isEmpty then .ok none
    else
      let cs := text.toList
      match Json.readChars (if cs.head? = some '\ufeff' then cs.tail else cs) with
      | .ok v => .ok (some v)
      | .error ⟨position, .malformed⟩ =>
        .error <| .problem 422 <| .list <|
          [.record
            [("loc", .list [.text "body", .int position]), ("type", .text "json_invalid")]]
      | .error _ =>
        .error (.problem 400 (.text "There was an error parsing the body"))

def readBody {α : Type} (read : Value → Validation α) (body : Option Value) : Validation α :=
  Validation.within (.field "body") <|
    match body with
    | none | some .null => .defect .missing
    | some v => read v

def integerParameter (r : HttpRequest) (name : String) (absent : Int)
    (check : Int → Validation Int) : Validation Int :=
  Validation.within (.field name) <|
    match r.parameter? name with
    | none => .valid absent
    | some s => (Validation.int (.text s)).andThen check

structure Page where
  limit : Nat
  offset : Nat

def page (r : HttpRequest) : Validation Page :=
  Validation.within (.field "query") <|
    (fun limit offset => Page.mk limit.toNat offset.toNat)
      <$> integerParameter r "limit" 50 (Validation.bounded 1 200)
      <*> integerParameter r "offset" 0 (Validation.atLeast 0)

structure NewAnalysis where
  resumeId : String
  vacancyId : String

def NewAnalysis.ofFields (fs : Fields) : Validation NewAnalysis :=
  mk <$> Validation.required "resume_id" Validation.text fs
    <*> Validation.required "vacancy_id" Validation.text fs

def NewAnalysis.ofValue (otherwise : Defect) : Value → Validation NewAnalysis :=
  Validation.record otherwise ofFields

structure NewVacancy where
  title : String
  description : String
  skills : List Requirement

def NewVacancy.ofFields (otherwise : Defect) (fs : Fields) : Validation NewVacancy :=
  mk <$> Validation.required "title" Validation.text fs
    <*> Validation.optional "description" "" Validation.text fs
    <*> Validation.optional "skills" [] (Validation.list (Requirement.ofValue otherwise)) fs

def NewVacancy.ofValue (otherwise : Defect) : Value → Validation NewVacancy :=
  Validation.record otherwise (ofFields otherwise)

def newSkills (otherwise : Defect) : Value → Validation (List Requirement) :=
  Validation.record otherwise <|
    Validation.required "skills" (Validation.list (Requirement.ofValue otherwise))

/-- The file of a form. A part without a file name is no file, and without content it is not
there. -/
def formFile (body : RequestBody) : Validation Upload :=
  let files :=
    match body with
    | .form files => files
    | _ => []
  Validation.within (.field "body") <| Validation.within (.field "file") <|
    match files.lookup "file" with
    | none => .defect .missing
    | some upload =>
      if (upload.filename.getD "").isEmpty then
        .defect (if upload.octets.isEmpty then .missing else .notFile)
      else .valid upload

end Shortlist.Http
