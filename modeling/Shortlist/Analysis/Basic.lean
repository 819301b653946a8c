import Shortlist.Analysis.Report
import Shortlist.Occasion

/-! # Analyses

The stored outcome of comparing a resume with a vacancy.
-/

namespace Shortlist

structure Analysis where
  analysisId : String
  resumeId : String
  vacancyId : String
  ownerId : Option String
  score : Float
  modelName : String
  report : Report
  createdAt : Moment

namespace Analysis

open Validation

/-- Scores lie between zero and one. -/
def score? (v : Value) : Validation Float := (float v).andThen (bounded 0.0 1.0)

def ofFields (o : Occasion) (fs : Fields) : Validation Analysis :=
  mk <$> optional "analysis_id" o.freshId text fs
    <*> required "resume_id" text fs
    <*> required "vacancy_id" text fs
    <*> optional "owner_id" none optionalText fs
    <*> optional "score" 0.0 score? fs
    <*> optional "model_name" "" text fs
    <*> optional "report" .empty Report.ofValue fs
    <*> optional "created_at" o.now moment fs

def ofValue (o : Occasion) : Value → Validation Analysis := record .notRecord (ofFields o)

def toFields (a : Analysis) : Fields :=
  [("analysis_id", .text a.analysisId), ("resume_id", .text a.resumeId),
    ("vacancy_id", .text a.vacancyId), ("owner_id", .ofOption .text a.ownerId),
    ("score", .float a.score), ("model_name", .text a.modelName), ("report", a.report.toValue),
    ("created_at", .time a.createdAt)]

def toValue (a : Analysis) : Value := .record a.toFields

end Analysis

end Shortlist
