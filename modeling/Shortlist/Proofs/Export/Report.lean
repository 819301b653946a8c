import Shortlist.Export.Ranking
import Shortlist.Proofs.Analysis.Enrichment
import Shortlist.Proofs.Export.Csv
import Shortlist.Proofs.Validation.Stored

/-! # The export of a vacancy

The export of a vacancy has a row for each of the newest analyses that the actor sees, up to a fixed
number of them. It is complete as long as there are no more than that; after that the oldest are
missing, whatever their scores.
-/

namespace Shortlist

open Program

/-! ## The rows of an export -/

namespace Ranked

def rowOf (a : Analysis) : List String := (ofAnalysis a).cells

theorem map_cells_ranking_perm (analyses : List Analysis) :
    ((ranking analyses).map cells).Perm (analyses.map rowOf) := by
  have hperm := (List.mergeSort_perm (analyses.map ofAnalysis) atLeastAsGood).map cells
  rwa [List.map_map] at hperm

end Ranked

theorem read_csvExport (quoting : Csv.Quoting) (analyses : List Analysis) :
    Csv.read (csvExport quoting analyses) =
      some (Ranked.columns :: (Ranked.ranking analyses).map Ranked.cells) := by
  apply Csv.read_table
  intro row hrow
  rcases List.mem_cons.mp hrow with rfl | hrow
  · exact List.cons_ne_nil _ _
  · obtain ⟨r, -, rfl⟩ := List.mem_map.mp hrow
    exact List.cons_ne_nil _ _

/-! ## The analyses of an export -/

theorem run_readAll {α : Type} {read : Fields → Validation α} {ds : List Document} {as : List α}
    (hds : ∀ d ∈ ds, d ≠ []) (h : ds.map (fun d => read (d.erase "_id")) = as.map .valid)
    (w : World) : (readAll read ds).run w = (.ok as, w) := by
  induction ds generalizing as with
  | nil =>
    rw [List.map_nil, eq_comm, List.map_eq_nil_iff] at h
    rw [h]
    rfl
  | cons d ds ih =>
    obtain ⟨hd, hds⟩ := List.forall_mem_cons.mp hds
    cases as with
    | nil => simp at h
    | cons a as =>
      rw [List.map_cons, List.map_cons, List.cons.injEq] at h
      rw [readAll, Document.stored?_eq_some_iff.mpr ⟨hd, rfl⟩]
      dsimp only
      rw [h.1]
      exact run_bind_ok (ih hds h.2)

namespace Analyses

variable {quoting : Csv.Quoting} {w : World} {o : Occasion} {actor : Actor}
  {vacancyId : String} {v : Vacancy}

/-- The analyses of a vacancy that an actor sees: an administrator sees all, others their own. -/
def visible (s : Store) (actor : Actor) (vacancyId : String) : List Document :=
  s.analyses.filter fun d =>
    d.holds "vacancy_id" vacancyId && (actor.isAdmin || d.holds "owner_id" actor.userId)

/-- The newest come first. -/
def newest (s : Store) (actor : Actor) (vacancyId : String) : List Document :=
  (visible s actor vacancyId).mergeSort Document.notOlder

theorem newest_perm (s : Store) (actor : Actor) (vacancyId : String) :
    (newest s actor vacancyId).Perm (visible s actor vacancyId) := List.mergeSort_perm _ _

theorem answer_findPage_analyses (s : Store) (actor : Actor) (vacancyId : String) :
    (s.answer (.findPage .analyses (Filter.scoped [("vacancy_id", vacancyId)] actor.scope)
      maxExported 0)).1 = (newest s actor vacancyId).take maxExported := by
  have hfits : Document.fits (Filter.scoped [("vacancy_id", vacancyId)] actor.scope) =
      fun d => d.holds "vacancy_id" vacancyId &&
        (actor.isAdmin || d.holds "owner_id" actor.userId) := by
    funext d
    rw [Document.fits_scoped, Document.fits_singleton, Actor.scope]
    cases actor.isAdmin <;> rfl
  rw [newest, visible, ← hfits]
  rfl

def reading (o : Occasion) (d : Document) : Validation Analysis :=
  Analysis.ofFields o (d.erase "_id")

def IsAnalysis (o : Occasion) (d : Document) : Prop := ∃ a, reading o d = .valid a

/-- The row of what was read, if it is an analysis. -/
def rowOf? : Validation Analysis → Option (List String)
  | .valid a => some (Ranked.rowOf a)
  | .invalid _ => none

/-- A report is made, and its export has exactly one row for each of the documents. -/
def Exports (quoting : Csv.Quoting) (o : Occasion) (actor : Actor) (vacancyId : String) (w : World)
    (ds : List Document) : Prop :=
  ∃ v analyses rows, ((vacancyReport o actor vacancyId).run w).1 = .ok (v, analyses) ∧
    Csv.read (csvExport quoting analyses) = some (Ranked.columns :: rows) ∧
    (rows.map some).Perm ((ds.map (reading o)).map rowOf?)

theorem exists_analyses {ds : List Document} (h : ∀ d ∈ ds, IsAnalysis o d) :
    ∃ as : List Analysis, ds.map (reading o) = as.map .valid := by
  induction ds with
  | nil => exact ⟨[], rfl⟩
  | cons d ds ih =>
    obtain ⟨⟨a, ha⟩, hds⟩ := List.forall_mem_cons.mp h
    obtain ⟨as, has⟩ := ih hds
    exact ⟨a :: as, by rw [List.map_cons, List.map_cons, ha, has]⟩

theorem run_vacancyReport (hw : w.pendingFaults = [])
    (hv : (Vacancies.getFor o actor vacancyId).run w = (.ok v, w)) {as : List Analysis}
    (has : ((newest w.store actor vacancyId).take maxExported).map (reading o) =
      as.map .valid) :
    (vacancyReport o actor vacancyId).run w = (.ok (v, as), w) := by
  have hcall := run_call_read (w := w)
    (operation "list_analyses" [("vacancy_id", .text vacancyId)])
    (q := .findPage .analyses (Filter.scoped [("vacancy_id", vacancyId)] actor.scope)
      maxExported 0) rfl (by rw [hw]; rfl)
  have hds : ∀ d ∈ (newest w.store actor vacancyId).take maxExported, d ≠ [] := by
    rintro d hd rfl
    have hvisible := (newest_perm _ _ _).subset (List.mem_of_mem_take hd)
    exact absurd (List.mem_filter.mp hvisible).2 Bool.false_ne_true
  rw [answer_findPage_analyses] at hcall
  have hlist : (listByVacancy o vacancyId actor.scope maxExported 0).run w = (.ok as, w) :=
    (run_bind_ok hcall).trans (run_readAll hds has w)
  exact (run_bind_ok hv).trans (run_bind_ok hlist)

/-! ## What an export has rows for -/

/-- An export has the rows of the newest analyses. -/
theorem exports_newest (quoting : Csv.Quoting) (hw : w.pendingFaults = [])
    (hv : (Vacancies.getFor o actor vacancyId).run w = (.ok v, w))
    (h : ∀ d ∈ (newest w.store actor vacancyId).take maxExported, IsAnalysis o d) :
    Exports quoting o actor vacancyId w ((newest w.store actor vacancyId).take maxExported) := by
  obtain ⟨as, has⟩ := exists_analyses h
  refine ⟨v, as, _, congrArg Prod.fst (run_vacancyReport hw hv has), read_csvExport quoting as, ?_⟩
  have hrows : (as.map .valid).map rowOf? = (as.map Ranked.rowOf).map some := by
    rw [List.map_map, List.map_map]
    rfl
  rw [has, hrows]
  exact (Ranked.map_cells_ranking_perm as).map some

namespace Exports

variable {ds ds' : List Document}

theorem perm (h : Exports quoting o actor vacancyId w ds) (hds : ds.Perm ds') :
    Exports quoting o actor vacancyId w ds' := by
  obtain ⟨v, analyses, rows, hrun, hread, hrows⟩ := h
  exact ⟨v, analyses, rows, hrun, hread, hrows.trans ((hds.map _).map _)⟩

/-- There is only one export, so it cannot have the rows of more documents. -/
theorem length_eq (h : Exports quoting o actor vacancyId w ds)
    (h' : Exports quoting o actor vacancyId w ds') :
    ds.length = ds'.length := by
  obtain ⟨v, analyses, rows, hrun, hread, hrows⟩ := h
  obtain ⟨v', analyses', rows', hrun', hread', hrows'⟩ := h'
  obtain ⟨-, rfl⟩ := Prod.mk.inj (Except.ok.inj (hrun.symm.trans hrun'))
  obtain ⟨-, rfl⟩ := List.cons.inj (Option.some.inj (hread.symm.trans hread'))
  simpa using hrows.length_eq.symm.trans hrows'.length_eq

theorem isAnalysis (h : Exports quoting o actor vacancyId w ds) : ∀ d ∈ ds, IsAnalysis o d := by
  intro d hd
  obtain ⟨-, -, rows, -, -, hrows⟩ := h
  have hmem := hrows.symm.subset (List.mem_map_of_mem (List.mem_map_of_mem hd))
  obtain ⟨row, -, hrow⟩ := List.mem_map.mp hmem
  rw [rowOf?.eq_def] at hrow
  split at hrow
  · next a ha => exact ⟨a, ha⟩
  · cases hrow

theorem length_le (h : Exports quoting o actor vacancyId w (visible w.store actor vacancyId))
    (hw : w.pendingFaults = []) (hv : (Vacancies.getFor o actor vacancyId).run w = (.ok v, w)) :
    (visible w.store actor vacancyId).length ≤ maxExported := by
  have hnewest := exports_newest quoting hw hv fun d hd =>
    h.isAnalysis d ((newest_perm _ _ _).subset (List.mem_of_mem_take hd))
  rw [h.length_eq hnewest]
  exact List.length_take_le _ _

end Exports

/-- An actor who sees a vacancy gets the rows of the newest analyses. These are the rows of all
that the actor sees exactly when all can be read and they are not too many. -/
theorem export_complete_iff (hw : w.pendingFaults = [])
    (hv : (Vacancies.getFor o actor vacancyId).run w = (.ok v, w)) :
    ((∀ d ∈ (newest w.store actor vacancyId).take maxExported, IsAnalysis o d) →
      Exports quoting o actor vacancyId w ((newest w.store actor vacancyId).take maxExported)) ∧
    (Exports quoting o actor vacancyId w (visible w.store actor vacancyId) ↔
      (∀ d ∈ visible w.store actor vacancyId, IsAnalysis o d) ∧
        (visible w.store actor vacancyId).length ≤ maxExported) := by
  refine ⟨exports_newest quoting hw hv, fun h => ⟨h.isAnalysis, h.length_le hw hv⟩, ?_⟩
  rintro ⟨hread, hle⟩
  have hperm := newest_perm w.store actor vacancyId
  have hall : (newest w.store actor vacancyId).take maxExported =
      newest w.store actor vacancyId := List.take_of_length_le (hperm.length_eq ▸ hle)
  have hnewest := exports_newest quoting hw hv fun d hd =>
    hread d (hperm.subset (List.mem_of_mem_take hd))
  exact (hall ▸ hnewest).perm hperm

def applicant (n : Nat) : Analysis :=
  ⟨toString n, "r1", "v1", some "alice", 1.0, "", .empty, noon.now⟩

def crowdedDesk (n : Nat) : Store :=
  { desk with analyses := (List.range n).map fun k => (applicant k).toFields }

theorem visible_crowdedDesk (n : Nat) : visible (crowdedDesk n) recruiter "v1" =
    (List.range n).map fun k => (applicant k).toFields := by
  apply List.filter_eq_self.mpr
  intro d hd
  obtain ⟨k, -, rfl⟩ := List.mem_map.mp hd
  rfl

theorem isAnalysis_crowdedDesk (n : Nat) :
    ∀ d ∈ visible (crowdedDesk n) recruiter "v1", IsAnalysis noon d := by
  have hscore : Analysis.score? (.float 1.0) = .valid 1.0 :=
    Analysis.score?_float (by decide) (by decide)
  intro d hd
  rw [visible_crowdedDesk] at hd
  obtain ⟨k, -, rfl⟩ := List.mem_map.mp hd
  exact ⟨applicant k, (applicant k).ofFields_toFields noon hscore⟩

theorem run_getFor_crowdedDesk (n : Nat) :
    (Vacancies.getFor noon recruiter "v1").run (.quiet (crowdedDesk n)) =
      (.ok ⟨"v1", some "alice", "", "", Weighted.collapse [⟨"Go", 1.0⟩], noon.now⟩,
        .quiet (crowdedDesk n)) := rfl

theorem export_complete_iff_twoApplicants :
    Exports .feeds noon recruiter "v1" (.quiet (crowdedDesk 2))
      (visible (crowdedDesk 2) recruiter "v1") :=
  (export_complete_iff rfl (run_getFor_crowdedDesk 2)).2.mpr
    ⟨isAnalysis_crowdedDesk 2, by simp [World.quiet, visible_crowdedDesk, maxExported]⟩

/-- Of 1001 analyses, all of them seen, only 1000 have a row. -/
theorem export_lacks_analysis :
    (∃ v analyses rows,
      ((vacancyReport noon recruiter "v1").run (.quiet (crowdedDesk 1001))).1 =
        .ok (v, analyses) ∧
      Csv.read (csvExport .feeds analyses) = some (Ranked.columns :: rows) ∧ rows.length = 1000) ∧
    (visible (crowdedDesk 1001) recruiter "v1").length = 1001 ∧
    ¬ Exports .feeds noon recruiter "v1" (.quiet (crowdedDesk 1001))
      (visible (crowdedDesk 1001) recruiter "v1") := by
  have hv := run_getFor_crowdedDesk 1001
  have hlength : (visible (crowdedDesk 1001) recruiter "v1").length = 1001 := by
    rw [visible_crowdedDesk, List.length_map, List.length_range]
  have hperm := newest_perm (crowdedDesk 1001) recruiter "v1"
  obtain ⟨v, analyses, rows, hrun, hread, hrows⟩ := exports_newest .feeds rfl hv fun d hd =>
    isAnalysis_crowdedDesk 1001 d (hperm.subset (List.mem_of_mem_take hd))
  refine ⟨⟨v, analyses, rows, hrun, hread, ?_⟩, hlength, fun h => ?_⟩
  · have hcount := hrows.length_eq
    rw [List.length_map, List.length_map, List.length_map, List.length_take] at hcount
    rw [hcount, World.quiet, hperm.length_eq, hlength]
    rfl
  · have hle := h.length_le rfl hv
    rw [World.quiet, hlength] at hle
    exact absurd hle (by decide)

end Analyses

end Shortlist
