import Shortlist.Candidate.Record
import Shortlist.Candidate.Resume
import Shortlist.Occasion
import Shortlist.Program.Basic

/-! # Stored resumes

Resumes and profile records as documents. A lookup for an owner sees only that owner's documents.
-/

namespace Shortlist

def Filter.scoped (f : Filter) : Option String → Filter
  | none => f
  | some owner => f ++ [("owner_id", owner)]

/-- The fields of a document that was found; a document without fields does not count, nor does the
store's own id. -/
def Document.stored? (d : Document) : Option Fields :=
  if d.isEmpty then none else some (d.erase "_id")

namespace Document

/-- A name and what it stands for, in a list of two. -/
def entry : Value → Except Fault (String × Value)
  | .list [.text name, v] => .ok (name, v)
  | .list _ | .record _ | .text _ => .error (.foreign .value "")
  | _ => .error (.foreign .type "")

/-- The document that a value stands for: a record, or a list of its entries. -/
def ofValue : Value → Except Fault Document
  | .record fs => .ok fs
  | .list vs => (fun es => Fields.merge [] es) <$> vs.mapM entry
  | .text s => if s.isEmpty then .ok [] else .error (.foreign .value "")
  | v => if v.isFalsy then .ok [] else .error (.foreign .type "")

end Document

namespace Resumes

def operation (name resumeId : String) (c : Collection) : Operation :=
  ⟨.text name, [("resume_id", .text resumeId), ("collection", .text c.name)]⟩

/-- A field of a document, null if it is not there. -/
def fieldOf (d : Document) (name : String) : Value := (d.get? name).getD .null

/-- The resume in a document; a missing or empty text is empty. -/
def ofDocument (resumeId : String) (d : Document) : Validation Resume :=
  let text := fieldOf d "parsed_text"
  Resume.ofFields
    [("resume_id", .text resumeId), ("text", if text.isFalsy then .text "" else text),
      ("owner_id", fieldOf d "owner_id"), ("filename", fieldOf d "filename")]

/-- The resume with an id, whoever owns it and whether or not its text is there. -/
def find (resumeId : String) : Program (Option Resume) := do
  let found ← Program.call (operation "find_resume" resumeId .resumes)
    (.findOne .resumes [("resume_id", resumeId)])
  match found with
  | none => pure none
  | some d =>
    if d.isEmpty then pure none
    else some <$> Program.ofValidation (ofDocument resumeId d)

def noText (resumeId : String) : Failure :=
  .notFound ("parsed resume text not found for resume " ++ resumeId) "parsed_resume" resumeId

/-- The resume with an id that has a text. -/
def get (resumeId : String) (owner : Option String) : Program Resume := do
  let found ← Program.call (operation "get_resume" resumeId .resumes)
    (.findOne .resumes (Filter.scoped [("resume_id", resumeId)] owner))
  match found with
  | none => .refuse (noText resumeId)
  | some d =>
    match fieldOf d "parsed_text" with
    | .null => .refuse (noText resumeId)
    | text =>
      .ofValidation <|
        Resume.ofFields
          [("resume_id", .text resumeId), ("text", text), ("owner_id", fieldOf d "owner_id"),
            ("filename", fieldOf d "filename")]

/-- What saving a resume sets; what is not known stays as it is. -/
def savedFields (r : Resume) : Fields :=
  ("parsed_text", .text r.text) ::
    ((r.ownerId.map fun owner => ("owner_id", Value.text owner)).toList ++
      (r.filename.map fun name => ("filename", Value.text name)).toList)

def save (r : Resume) : Program Unit :=
  Program.call (operation "save_parsed_text" r.resumeId .resumes)
    (.setFields .resumes [("resume_id", r.resumeId)] (savedFields r))

def saveRecord (r : ProfileRecord) : Program Unit :=
  Program.call (operation "upsert_profile" r.resumeId .profiles)
    (.replace .profiles [("resume_id", r.resumeId)] r.toFields)

def findRecord (o : Occasion) (resumeId : String) : Program (Option ProfileRecord) := do
  let found ← Program.call (operation "get_profile" resumeId .profiles)
    (.findOne .profiles [("resume_id", resumeId)])
  match found.bind Document.stored? with
  | none => pure none
  | some fs =>
    if fs.isEmpty then pure none
    else some <$> Program.ofValidation (ProfileRecord.ofFields o.now fs)

end Resumes

end Shortlist
