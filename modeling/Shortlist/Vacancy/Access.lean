import Shortlist.Actor
import Shortlist.Vacancy.Archive

/-! # Vacancies of an actor

Making, reading and changing vacancies. An actor who is no administrator sees and changes only their
own.
-/

namespace Shortlist.Vacancies

def titleMissing : Failure :=
  .make .validation "title is required" [("field", .text "title"), ("value", .text "")]

def create (o : Occasion) (actor : Actor) (title description : String)
    (skills : List Requirement) : Program Vacancy := do
  let title := Text.strip title
  if title.isEmpty then .refuse titleMissing
  else
    let v : Vacancy :=
      { vacancyId := o.freshId, ownerId := some actor.userId, title,
        description := Text.strip description, skills := Weighted.collapse skills,
        createdAt := o.now }
    insert v
    pure v

def getFor (o : Occasion) (actor : Actor) (vacancyId : String) : Program Vacancy :=
  get o vacancyId actor.scope

def listFor (o : Occasion) (actor : Actor) (limit offset : Nat) : Program (List Vacancy) :=
  list o actor.scope limit offset

def updateSkillsFor (o : Occasion) (actor : Actor) (vacancyId : String)
    (skills : List Requirement) : Program Vacancy :=
  updateSkills o vacancyId skills actor.scope

end Shortlist.Vacancies
