import Shortlist.Analysis.Basic
import Shortlist.Vacancy.Archive

/-! # Stored analyses -/

namespace Shortlist.Analyses

def operation (name : String) (context : Fields) : Operation :=
  ⟨.text name, context ++ [("collection", .text Collection.analyses.name)]⟩

def insert (a : Analysis) : Program Unit :=
  Program.call (operation "create_analysis" [("analysis_id", .text a.analysisId)])
    (.insert .analyses a.toFields)

def find (o : Occasion) (analysisId : String) : Program (Option Analysis) := do
  let found ← Program.call (operation "get_analysis" [("analysis_id", .text analysisId)])
    (.findOne .analyses [("analysis_id", analysisId)])
  match found.bind Document.stored? with
  | none => pure none
  | some fs =>
    if fs.isEmpty then pure none else some <$> Program.ofValidation (Analysis.ofFields o fs)

def listByVacancy (o : Occasion) (vacancyId : String) (owner : Option String) (limit offset : Nat) :
    Program (List Analysis) := do
  let found ← Program.call (operation "list_analyses" [("vacancy_id", .text vacancyId)])
    (.findPage .analyses (Filter.scoped [("vacancy_id", vacancyId)] owner) limit offset)
  readAll (Analysis.ofFields o) found

def list (o : Occasion) (owner : Option String) (limit offset : Nat) : Program (List Analysis) := do
  let found ← Program.call (operation "list_all_analyses" [("owner_id", .ofOption .text owner)])
    (.findPage .analyses (Filter.scoped [] owner) limit offset)
  readAll (Analysis.ofFields o) found

/-- Removes an analysis and tells whether it was there. -/
def delete (analysisId : String) : Program Bool := do
  let count ← Program.call (operation "delete_analysis" [("analysis_id", .text analysisId)])
    (.delete .analyses [("analysis_id", analysisId)])
  pure (count == 1)

end Shortlist.Analyses
