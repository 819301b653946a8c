import Shortlist.Analysis.Basic
import Shortlist.Decimal.Fixed
import Shortlist.Export.Csv
import Shortlist.Value.Text

/-! # Ranking

The analyses of a vacancy as lines of a table, the best score first. Scores are compared and shown
rounded to four places, and lines with equal scores keep their order.
-/

namespace Shortlist

structure Ranked where
  analysisId : String
  resumeId : String
  /-- The rounded score in units of its last place, by which lines are compared. -/
  standing : Int
  score : Float
  matched : String
  missing : String
  modelName : String
  hrRecommendation : String
  createdAt : String

namespace Ranked

def places : Nat := 4

def ofAnalysis (a : Analysis) : Ranked where
  analysisId := a.analysisId
  resumeId := a.resumeId
  standing := Decimal.signedUnits places a.score
  score := Decimal.roundTo places a.score
  matched := Text.join ", " a.report.matchedSkills
  missing := Text.join ", " a.report.missingSkills
  modelName := a.modelName
  hrRecommendation := a.report.hrRecommendation
  createdAt := a.createdAt.iso

def atLeastAsGood (a b : Ranked) : Bool := b.standing ≤ a.standing

def ranking (analyses : List Analysis) : List Ranked :=
  (analyses.map ofAnalysis).mergeSort atLeastAsGood

def columns : List String :=
  ["analysis_id", "resume_id", "score", "matched_skills", "missing_skills", "model_name",
    "hr_recommendation", "created_at"]

def cells (r : Ranked) : List String :=
  [r.analysisId, r.resumeId, Value.layout.write r.score, r.matched, r.missing, r.modelName,
    r.hrRecommendation, r.createdAt]

end Ranked

def csvExport (quoting : Csv.Quoting) (analyses : List Analysis) : String :=
  Csv.table quoting (Ranked.columns :: (Ranked.ranking analyses).map Ranked.cells)

end Shortlist
