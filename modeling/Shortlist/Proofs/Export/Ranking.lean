import Shortlist.Export.Digest
import Shortlist.Proofs.Decimal.Rounding
import Shortlist.Proofs.Export.Report

/-! # One ranking in two exports

Both exports of a vacancy show the same ranking of its analyses: by the rounded score, and equally
good ones in the order in which they were given. The rows show all of them and can be read back;
the page shows the first ten in its table and the first five in its notes.
-/

namespace Shortlist

/-! ## What is shown of an analysis -/

namespace Analysis

/-- The score in ten-thousandths. -/
def standing (a : Analysis) : Int := Decimal.signedUnits 4 a.score

def rowCells (a : Analysis) : List String :=
  [a.analysisId, a.resumeId, Value.layout.write (Decimal.roundTo 4 a.score),
    Text.join ", " a.report.matchedSkills, Text.join ", " a.report.missingSkills, a.modelName,
    a.report.hrRecommendation, a.createdAt.iso]

def rankLine (rank : Nat) (a : Analysis) : String :=
  "| " ++ toString rank ++ " | " ++ a.resumeId ++ " | " ++
    Decimal.writeFixed 3 (Decimal.roundTo 4 a.score) ++ " | " ++
    Text.join ", " a.report.matchedSkills ++ " | " ++ Text.join ", " a.report.missingSkills ++ " |"

def noteLine (a : Analysis) : String :=
  "- **" ++ a.resumeId ++ "**: " ++
    if a.report.hrRecommendation.isEmpty then "n/a" else a.report.hrRecommendation

def notBelow (a b : Analysis) : Bool := decide (b.standing ≤ a.standing)

def ranked (analyses : List Analysis) : List Analysis := analyses.mergeSort notBelow

theorem notBelow_trans (a b c : Analysis) (hab : notBelow a b) (hbc : notBelow b c) :
    notBelow a c := by
  rw [notBelow, decide_eq_true_eq] at *
  omega

theorem notBelow_total (a b : Analysis) : notBelow a b || notBelow b a := by
  rw [notBelow, notBelow, Bool.or_eq_true, decide_eq_true_eq, decide_eq_true_eq]
  omega

theorem ranked_perm (analyses : List Analysis) : (ranked analyses).Perm analyses :=
  List.mergeSort_perm analyses notBelow

theorem pairwise_ranked (analyses : List Analysis) :
    (ranked analyses).Pairwise fun a b => b.standing ≤ a.standing :=
  (List.pairwise_mergeSort notBelow_trans notBelow_total analyses).imp of_decide_eq_true

theorem filter_ranked (analyses : List Analysis) (n : Int) :
    (ranked analyses).filter (·.standing = n) = analyses.filter (·.standing = n) := by
  have hequal : (analyses.filter (·.standing = n)).Pairwise fun a b => notBelow a b := by
    apply List.pairwise_of_forall_mem_list
    intro a ha b hb
    have ha' := of_decide_eq_true (List.mem_filter.mp ha).2
    have hb' := of_decide_eq_true (List.mem_filter.mp hb).2
    exact decide_eq_true (by omega)
  have hsublist := (List.sublist_mergeSort notBelow_trans notBelow_total hequal
    List.filter_sublist).filter (·.standing = n)
  have hfilter : (analyses.filter (·.standing = n)).filter (·.standing = n) =
      analyses.filter (·.standing = n) :=
    List.filter_eq_self.mpr fun _ ha => (List.mem_filter.mp ha).2
  rw [hfilter] at hsublist
  exact (hsublist.eq_of_length ((ranked_perm analyses).symm.filter _).length_eq).symm

end Analysis

namespace Digest

theorem tableRows_map_ofAnalysis (rank : Nat) (analyses : List Analysis) :
    tableRows rank (analyses.map Ranked.ofAnalysis) =
      analyses.mapIdx fun i a => a.rankLine (i + rank) := by
  induction analyses generalizing rank with
  | nil => rfl
  | cons a rest ih =>
    rw [List.map_cons, tableRows, ih, List.mapIdx_cons, Nat.zero_add]
    simp only [Nat.add_assoc, Nat.add_comm 1]
    rfl

def lines (v : Vacancy) (analyses : List Analysis) : List String :=
  heading v :: description v ::
    if analyses.isEmpty then ["> No analyses for this vacancy yet.\n"]
    else
      tableHead ++ (analyses.take 10).mapIdx (fun i a => a.rankLine (i + 1)) ++
        "\n---\nHR notes (top-5):" :: (analyses.take 5).map Analysis.noteLine

end Digest

theorem Ranked.ranking_eq (analyses : List Analysis) :
    ranking analyses = (Analysis.ranked analyses).map ofAnalysis :=
  (List.map_mergeSort (f := ofAnalysis) (s := atLeastAsGood) fun _ _ _ _ => rfl).symm

/-! ## The two exports -/

theorem read_csvExport_ranked (quoting : Csv.Quoting) (analyses : List Analysis) :
    Csv.read (csvExport quoting analyses) =
      some (Ranked.columns :: (Analysis.ranked analyses).map Analysis.rowCells) := by
  rw [read_csvExport, Ranked.ranking_eq, List.map_map]
  rfl

theorem markdownExport_ranked (v : Vacancy) (analyses : List Analysis) :
    markdownExport v analyses = Text.join "\n" (Digest.lines v (Analysis.ranked analyses)) := by
  have hnotes : (((Analysis.ranked analyses).take 5).map Ranked.ofAnalysis).map Digest.note =
      ((Analysis.ranked analyses).take 5).map Analysis.noteLine := by
    rw [List.map_map]
    rfl
  rw [markdownExport, Ranked.ranking_eq, Digest.body, List.isEmpty_map, ← List.map_take,
    ← List.map_take, Digest.tableRows_map_ofAnalysis, hnotes]
  rfl

/-- Whatever the texts, the rows are read back as one for each analysis, in the order of the rounded
scores, and equally good ones as they came. The page shows the first of the same rows. -/
theorem exports_show_one_ranking (quoting : Csv.Quoting) (v : Vacancy)
    (analyses : List Analysis) :
    (∀ a : Analysis, Decimal.IsNearest 4 a.score a.standing) ∧
    ∃ best : List Analysis, best.Perm analyses ∧
      (best.Pairwise fun a b => b.standing ≤ a.standing) ∧
      (∀ n, best.filter (·.standing = n) = analyses.filter (·.standing = n)) ∧
      Csv.read (csvExport quoting analyses) = some (Ranked.columns :: best.map Analysis.rowCells) ∧
      markdownExport v analyses = Text.join "\n" (Digest.lines v best) := by
  refine ⟨fun a => Decimal.isNearest_signedUnits 4 a.score, Analysis.ranked analyses, ?_⟩
  refine ⟨Analysis.ranked_perm analyses, Analysis.pairwise_ranked analyses,
    Analysis.filter_ranked analyses, ?_, ?_⟩
  · exact read_csvExport_ranked quoting analyses
  · exact markdownExport_ranked v analyses

end Shortlist
