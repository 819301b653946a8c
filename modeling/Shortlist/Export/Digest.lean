import Shortlist.Export.Ranking
import Shortlist.Vacancy.Basic

/-! # Digest

A page in markdown about the candidates for a vacancy: a table of the best ten, and what is
recommended about the best five.
-/

namespace Shortlist.Digest

def tableHead : List String :=
  ["| Rank | Resume ID | Score | Matched | Missing |", "|---:|---|---:|---|---|"]

/-- A line of the table; `rank` counts from one. -/
def tableRow (rank : Nat) (r : Ranked) : String :=
  "| " ++ toString rank ++ " | " ++ r.resumeId ++ " | " ++ Decimal.writeFixed 3 r.score ++ " | " ++
    r.matched ++ " | " ++ r.missing ++ " |"

def tableRows : (rank : Nat) → List Ranked → List String
  | _, [] => []
  | rank, r :: rest => tableRow rank r :: tableRows (rank + 1) rest

def note (r : Ranked) : String :=
  "- **" ++ r.resumeId ++ "**: " ++
    if r.hrRecommendation.isEmpty then "n/a" else r.hrRecommendation

def heading (v : Vacancy) : String :=
  "# Vacancy " ++ (if v.title.isEmpty then v.vacancyId else v.title) ++ ": candidate fit"

def description (v : Vacancy) : String :=
  let text := Text.strip v.description
  if text.isEmpty then "*(No vacancy description available)*\n"
  else "**Description**: " ++ text ++ "\n"

/-- What is said about ranked candidates. -/
def body (ranking : List Ranked) : List String :=
  if ranking.isEmpty then ["> No analyses for this vacancy yet.\n"]
  else
    tableHead ++ tableRows 1 (ranking.take 10) ++ "\n---\nHR notes (top-5):" ::
      (ranking.take 5).map note

end Digest

def markdownExport (v : Vacancy) (analyses : List Analysis) : String :=
  Text.join "\n" (Digest.heading v :: Digest.description v :: Digest.body (Ranked.ranking analyses))

end Shortlist
