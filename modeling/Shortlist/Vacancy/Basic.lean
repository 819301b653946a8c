import Shortlist.Occasion
import Shortlist.Skill.Requirement
import Shortlist.Validation.Record
import Shortlist.Validation.Scalar

/-! # Vacancies

A vacancy belongs to an owner and lists weighted requirements, each skill once.
-/

namespace Shortlist

namespace Requirement

open Validation

/-- A requirement weighs one unless it says otherwise. -/
def ofFields (fs : Fields) : Validation Requirement :=
  Weighted.mk <$> required "skill" text fs <*> optional "weight" 1.0 float fs

def ofValue (otherwise : Defect) : Value → Validation Requirement := record otherwise ofFields

def toValue (r : Requirement) : Value :=
  .record [("skill", .text r.skill), ("weight", .float r.weight)]

end Requirement

structure Vacancy where
  vacancyId : String
  ownerId : Option String
  title : String
  description : String
  skills : List Requirement
  createdAt : Moment

namespace Vacancy

open Validation

def requirements (v : Value) : Validation (List Requirement) :=
  Weighted.collapse <$> list (Requirement.ofValue .notRecord) v

def ofFields (o : Occasion) (fs : Fields) : Validation Vacancy :=
  mk <$> optional "vacancy_id" o.freshId text fs
    <*> optional "owner_id" none optionalText fs
    <*> optional "title" "" text fs
    <*> optional "description" "" text fs
    <*> optional "skills" [] requirements fs
    <*> optional "created_at" o.now moment fs

def ofValue (o : Occasion) : Value → Validation Vacancy := record .notRecord (ofFields o)

def toFields (v : Vacancy) : Fields :=
  [("vacancy_id", .text v.vacancyId), ("owner_id", .ofOption .text v.ownerId),
    ("title", .text v.title), ("description", .text v.description),
    ("skills", .list (v.skills.map Requirement.toValue)), ("created_at", .time v.createdAt)]

def toValue (v : Vacancy) : Value := .record v.toFields

end Vacancy

end Shortlist
