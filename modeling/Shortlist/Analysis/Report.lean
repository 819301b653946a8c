import Shortlist.Candidate.Profile
import Shortlist.Validation.Scalar

/-! # Reports

What an analysis says in words. A narrative comes from a text-generation service; a report holds the
outcome of matching and what the narrative adds to it.
-/

namespace Shortlist

structure Narrative where
  candidateSummary : String
  uniqueStrengths : List String
  hrRecommendation : String
  candidateRecommendations : List String
deriving DecidableEq, Repr

namespace Narrative

def ofFields (fs : Fields) : Narrative :=
  ⟨fs.asText "candidate_summary", fs.asTexts "unique_strengths", fs.asText "hr_recommendation",
    fs.asTexts "candidate_recommendations"⟩

/-- Every record is a narrative, read loosely. -/
def ofValue : Value → Validation Narrative :=
  Validation.record .notRecord fun fs => .valid (ofFields fs)

def toValue (n : Narrative) : Value :=
  .record
    [("candidate_summary", .text n.candidateSummary),
      ("unique_strengths", .texts n.uniqueStrengths),
      ("hr_recommendation", .text n.hrRecommendation),
      ("candidate_recommendations", .texts n.candidateRecommendations)]

def isEmpty (n : Narrative) : Bool :=
  n.candidateSummary.isEmpty && n.uniqueStrengths.isEmpty && n.hrRecommendation.isEmpty &&
    n.candidateRecommendations.isEmpty

end Narrative

structure Report where
  candidateSummary : String
  matchedSkills : List String
  missingSkills : List String
  uniqueStrengths : List String
  hrRecommendation : String
  candidateRecommendations : List String
deriving DecidableEq, Repr

namespace Report

open Validation

def empty : Report := ⟨"", [], [], [], "", []⟩

/-- A loosely written list whose items have to be texts. -/
def textItems (v : Value) : Validation (List String) := itemsFrom text 0 v.asList

def ofFields (fs : Fields) : Validation Report :=
  mk <$> optional "candidate_summary" "" text fs
    <*> optional "matched_skills" [] textItems fs
    <*> optional "missing_skills" [] textItems fs
    <*> optional "unique_strengths" [] textItems fs
    <*> optional "hr_recommendation" "" text fs
    <*> optional "candidate_recommendations" [] textItems fs

def ofValue : Value → Validation Report := record .notRecord ofFields

def toValue (r : Report) : Value :=
  .record
    [("candidate_summary", .text r.candidateSummary), ("matched_skills", .texts r.matchedSkills),
      ("missing_skills", .texts r.missingSkills), ("unique_strengths", .texts r.uniqueStrengths),
      ("hr_recommendation", .text r.hrRecommendation),
      ("candidate_recommendations", .texts r.candidateRecommendations)]

/-- Takes over what a narrative says; a blank summary leaves the summary as it is. -/
def withNarrative (r : Report) (n : Narrative) : Report :=
  { r with
    candidateSummary :=
      if Text.isBlankText n.candidateSummary then r.candidateSummary else n.candidateSummary
    uniqueStrengths := n.uniqueStrengths
    hrRecommendation := n.hrRecommendation
    candidateRecommendations := n.candidateRecommendations }

end Report

end Shortlist
