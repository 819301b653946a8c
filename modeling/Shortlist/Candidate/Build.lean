import Shortlist.Candidate.Archive
import Shortlist.Chat.Prompt
import Shortlist.Chat.Reply

/-! # Building profiles

The profile of a resume is built with the help of a text-generation service. A build stores a
pending record first and then its outcome. Builds of one resume are served one after another.
-/

namespace Shortlist

/-- A text-generation service by the model that it runs. -/
structure Assistant where
  modelName : String

/-- The model of an assistant, if there is one. -/
def Assistant.nameOf (assistant : Option Assistant) : String :=
  (assistant.map Assistant.modelName).getD ""

namespace Profiles

def maxResumeLength : Nat := 12000

def emptyText : String := "empty resume text"

def notConfigured : String := "extraction service not configured"

def unusable : String := "could not extract a usable profile from the service response"

/-- Stores a record in its new state. -/
def settle (o : Occasion) (r : ProfileRecord) (status : ProfileStatus) (error : String)
    (profile : Profile) : Program ProfileRecord := do
  let r := { r with status, errorMessage := error, profile, updatedAt := o.now }
  Resumes.saveRecord r
  pure r

def giveUp (o : Occasion) (r : ProfileRecord) (reason : String) : Program ProfileRecord :=
  settle o r .failed reason .empty

/-- What becomes of the service's reply. Only a reply that cannot be decoded counts against it. -/
def conclude (o : Occasion) (r : ProfileRecord) (reply : Option String) : Program ProfileRecord :=
  match Reply.decode Profile.target reply with
  | .ok profile =>
    if profile.isEmpty then giveUp o r unusable else settle o r .ok "" profile
  | .error (.failure f) =>
    if f.kind = .responseParse then giveUp o r unusable else .refuse f
  | .error fault => .fail fault

/-- The question about a resume and its outcome: a reply, or the reason why there is none. -/
def inquire (text : String) : Program (Except String (Option String)) :=
  (Except.ok <$> Program.ask Prompt.profileSystem (Prompt.forProfile text)).handle fun fault =>
    pure (.error fault.text)

def build (assistant : Option Assistant) (o : Occasion) (resumeId text : String) :
    Program ProfileRecord := do
  let fresh : ProfileRecord :=
    { resumeId, status := .pending, modelName := Assistant.nameOf assistant, errorMessage := "",
      profile := .empty, updatedAt := o.now }
  let r ← settle o fresh .pending "" .empty
  let text := Text.strip text
  if text.isEmpty then giveUp o r emptyText
  else if assistant.isNone then giveUp o r notConfigured
  else
    match ← inquire (Text.take maxResumeLength text) with
    | .error reason => giveUp o r reason
    | .ok reply => conclude o r reply

/-- Builds a profile when no other build of the resume is under way. -/
def buildAndSave (assistant : Option Assistant) (o : Occasion) (resumeId text : String) :
    Program ProfileRecord :=
  .holding resumeId (build assistant o resumeId text)

end Profiles

end Shortlist
