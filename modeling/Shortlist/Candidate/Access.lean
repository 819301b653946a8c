import Shortlist.Actor
import Shortlist.Candidate.Build
import Shortlist.Candidate.Upload

/-! # Resumes of an actor

Taking in files as resumes, and building and reading their profiles. An actor who is no
administrator reaches only resumes of their own; others count as not found.
-/

namespace Shortlist.Profiles

/-- The owner of a resume that an actor uploads: whoever owned it before, or the actor. -/
def ownerOf (actor : Actor) (existing : Option Resume) : String :=
  ((existing.bind Resume.ownerId).filter (!·.isEmpty)).getD actor.userId

def unknownResume (resumeId : String) : Failure :=
  .notFound ("resume " ++ resumeId ++ " not found") "resume" resumeId

def ingest (assistant : Option Assistant) (o : Occasion) (actor : Actor) (resumeId : String)
    (upload : Upload) : Program ProfileRecord := do
  let owner := ownerOf actor (← Resumes.find resumeId)
  if actor.scope.any (· ≠ owner) then .refuse (unknownResume resumeId)
  else
    let text ← Program.ofExcept upload.text
    Resumes.save ⟨resumeId, text, some owner, upload.filename⟩
    buildAndSave assistant o resumeId text

def rebuild (assistant : Option Assistant) (o : Occasion) (actor : Actor) (resumeId : String) :
    Program ProfileRecord := do
  let resume ← Resumes.get resumeId actor.scope
  buildAndSave assistant o resumeId resume.text

def get (o : Occasion) (actor : Actor) (resumeId : String) : Program ProfileRecord := do
  if actor.scope.isSome then
    let _ ← Resumes.get resumeId actor.scope
  match ← Resumes.findRecord o resumeId with
  | some r => pure r
  | none =>
    .refuse (.notFound ("profile for resume " ++ resumeId ++ " not found") "profile" resumeId)

end Shortlist.Profiles
