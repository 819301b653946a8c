import Shortlist.Actor
import Shortlist.Analysis.Archive
import Shortlist.Analysis.Narration

/-! # Analyses of an actor

An analysis matches the profile of a resume with a vacancy, lets the text-generation service comment
on the match, and stores the outcome. An actor who is no administrator has to own both the resume
and the vacancy, and reaches only their own analyses.
-/

namespace Shortlist

/-- Who owns an analysis: the actor, or for an administrator the owner of the vacancy or else of the
resume, if any. -/
def analysisOwner (actor : Actor) (vacancy : Vacancy) (resumeOwner : Option String) : String :=
  let known (owner : Option String) : Option String := owner.filter (!·.isEmpty)
  if actor.isAdmin then
    ((known vacancy.ownerId).orElse fun _ => known resumeOwner).getD actor.userId
  else actor.userId

namespace Analyses

/-- The record of a resume, built if there is none. -/
def resolveRecord (assistant : Option Assistant) (o : Occasion) (resume : Resume) :
    Program ProfileRecord := do
  match ← Resumes.findRecord o resume.resumeId with
  | some r => pure r
  | none => Profiles.buildAndSave assistant o resume.resumeId resume.text

def create (assistant : Option Assistant) (o : Occasion) (actor : Actor)
    (resumeId vacancyId : String) : Program Analysis := do
  let vacancy ← Vacancies.get o vacancyId actor.scope
  let resume ← Resumes.get resumeId actor.scope
  let record ← resolveRecord assistant o resume
  if record.status ≠ .ok then
    .refuse (.profileNotReady resumeId record.status.name record.errorMessage)
  else
    let fit := record.profile.fit vacancy.skills
    let (report, modelName) ← enrich assistant vacancy record.profile fit
    let a : Analysis :=
      { analysisId := o.freshId, resumeId, vacancyId,
        ownerId := some (analysisOwner actor vacancy resume.ownerId), score := fit.score,
        modelName, report, createdAt := o.now }
    insert a
    pure a

/-- The analysis with an id, if the actor may see it. -/
def getFor (o : Occasion) (actor : Actor) (analysisId : String) : Program Analysis := do
  let unknown : Failure :=
    .notFound ("analysis " ++ analysisId ++ " not found") "analysis" analysisId
  match ← find o analysisId with
  | none => .refuse unknown
  | some a =>
    if !actor.isAdmin && a.ownerId ≠ some actor.userId then .refuse unknown else pure a

def listFor (o : Occasion) (actor : Actor) (limit offset : Nat) : Program (List Analysis) :=
  list o actor.scope limit offset

def deleteFor (o : Occasion) (actor : Actor) (analysisId : String) : Program Unit := do
  let _ ← getFor o actor analysisId
  let _ ← delete analysisId
  pure ()

def listByVacancyFor (o : Occasion) (actor : Actor) (vacancyId : String) (limit offset : Nat) :
    Program (List Analysis) := do
  let _ ← Vacancies.get o vacancyId actor.scope
  listByVacancy o vacancyId actor.scope limit offset

def maxExported : Nat := 1000

def vacancyReport (o : Occasion) (actor : Actor) (vacancyId : String) :
    Program (Vacancy × List Analysis) := do
  let vacancy ← Vacancies.get o vacancyId actor.scope
  let analyses ← listByVacancy o vacancyId actor.scope maxExported 0
  pure (vacancy, analyses)

end Analyses

end Shortlist
