import Shortlist.Candidate.Archive
import Shortlist.Vacancy.Basic

/-! # Stored vacancies -/

namespace Shortlist

def readAll {α : Type} (read : Fields → Validation α) : List Document → Program (List α)
  | [] => pure []
  | d :: ds =>
    match d.stored? with
    | none => .fail (.foreign .type "")
    | some fs => do
      let a ← Program.ofValidation (read fs)
      let rest ← readAll read ds
      pure (a :: rest)

namespace Vacancies

def operation (name vacancyId : String) : Operation :=
  ⟨.text name, [("vacancy_id", .text vacancyId), ("collection", .text Collection.vacancies.name)]⟩

def unknown (vacancyId : String) : Failure :=
  .notFound ("vacancy " ++ vacancyId ++ " not found") "vacancy" vacancyId

/-- The vacancy in a document, if there is one. -/
def ofFound (o : Occasion) (vacancyId : String) (found : Option Document) : Program Vacancy :=
  match found.bind Document.stored? with
  | none => .refuse (unknown vacancyId)
  | some fs =>
    if fs.isEmpty then .refuse (unknown vacancyId) else .ofValidation (Vacancy.ofFields o fs)

def insert (v : Vacancy) : Program Unit :=
  Program.call (operation "create_vacancy" v.vacancyId) (.insert .vacancies v.toFields)

def get (o : Occasion) (vacancyId : String) (owner : Option String) : Program Vacancy := do
  let found ← Program.call (operation "get_vacancy" vacancyId)
    (.findOne .vacancies (Filter.scoped [("vacancy_id", vacancyId)] owner))
  ofFound o vacancyId found

def list (o : Occasion) (owner : Option String) (limit offset : Nat) : Program (List Vacancy) := do
  let op : Operation :=
    ⟨.text "list_vacancies",
      [("owner_id", .ofOption .text owner), ("collection", .text Collection.vacancies.name)]⟩
  let found ← Program.call op (.findPage .vacancies (Filter.scoped [] owner) limit offset)
  readAll (Vacancy.ofFields o) found

/-- Replaces the requirements of a vacancy; repeated skills are stored once. -/
def updateSkills (o : Occasion) (vacancyId : String) (skills : List Requirement)
    (owner : Option String) : Program Vacancy := do
  let stored := Value.list ((Weighted.collapse skills).map Requirement.toValue)
  let found ← Program.call (operation "update_vacancy_skills" vacancyId)
    (.updateOne .vacancies (Filter.scoped [("vacancy_id", vacancyId)] owner) [("skills", stored)])
  ofFound o vacancyId found

end Vacancies

end Shortlist
