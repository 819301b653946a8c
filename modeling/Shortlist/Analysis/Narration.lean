import Shortlist.Candidate.Build
import Shortlist.Matching.Fit

/-! # Narration

The report of an analysis starts from what matching says. The text-generation service is asked to
comment on it; when that fails, the report says so instead.
-/

namespace Shortlist

/-- What matching alone says about a candidate. -/
def baselineReport (fit : Fit Float) (p : Profile) : Report :=
  { Report.empty with
    candidateSummary := p.summary
    matchedSkills := fit.matched
    missingSkills := fit.missing }

namespace Analyses

def failureNote (reason : String) : String :=
  "AI enrichment unavailable, report is based on skill matching only: " ++ reason

def noNarrative : Failure :=
  .make .responseParse "service response has no narrative fields"
    [("target", .text Narrative.target.name)]

def narrate (v : Vacancy) (p : Profile) (fit : Fit Float) : Program Narrative := do
  let reply ← Program.ask Prompt.enrichmentSystem
    (Prompt.forNarrative v p fit.matched fit.missing)
  let narrative ← Program.ofExcept (Reply.decode Narrative.target reply)
  if narrative.isEmpty then .refuse noNarrative else pure narrative

/-- The report with the service's comment, and the model that made it. -/
def enrich (assistant : Option Assistant) (v : Vacancy) (p : Profile) (fit : Fit Float) :
    Program (Report × String) :=
  let report := baselineReport fit p
  match assistant with
  | none => pure (report, "")
  | some a =>
    ((fun narrative => (report.withNarrative narrative, a.modelName)) <$> narrate v p fit).handle
      fun fault => pure ({ report with hrRecommendation := failureNote fault.text }, "")

end Analyses

end Shortlist
