import Shortlist.Proofs.Analysis.Enrichment
import Shortlist.Proofs.Program.Surfacing
import Shortlist.Proofs.Service.Request

/-! # Failures of the store

Every call that a request makes to the store belongs to a named operation. When the call fails, so
does the request, with the same failure or with one that tells about the operation. It does not go
on as if nothing had been found, record a profile as failed, or note anything in a report.
-/

namespace Shortlist

open Program

inductive Archived : Operation → StoreCall → Prop where
  | findResume (resumeId : String) :
      Archived (Resumes.operation "find_resume" resumeId .resumes)
        (.findOne .resumes [("resume_id", resumeId)])
  | getResume (resumeId : String) (owner : Option String) :
      Archived (Resumes.operation "get_resume" resumeId .resumes)
        (.findOne .resumes (Filter.scoped [("resume_id", resumeId)] owner))
  | saveResume (r : Resume) :
      Archived (Resumes.operation "save_parsed_text" r.resumeId .resumes)
        (.setFields .resumes [("resume_id", r.resumeId)] (Resumes.savedFields r))
  | saveRecord (r : ProfileRecord) :
      Archived (Resumes.operation "upsert_profile" r.resumeId .profiles)
        (.replace .profiles [("resume_id", r.resumeId)] r.toFields)
  | findRecord (resumeId : String) :
      Archived (Resumes.operation "get_profile" resumeId .profiles)
        (.findOne .profiles [("resume_id", resumeId)])
  | insertVacancy (v : Vacancy) :
      Archived (Vacancies.operation "create_vacancy" v.vacancyId) (.insert .vacancies v.toFields)
  | getVacancy (vacancyId : String) (owner : Option String) :
      Archived (Vacancies.operation "get_vacancy" vacancyId)
        (.findOne .vacancies (Filter.scoped [("vacancy_id", vacancyId)] owner))
  | listVacancies (owner : Option String) (limit offset : Nat) :
      Archived ⟨.text "list_vacancies",
          [("owner_id", .ofOption .text owner), ("collection", .text Collection.vacancies.name)]⟩
        (.findPage .vacancies (Filter.scoped [] owner) limit offset)
  | updateSkills (vacancyId : String) (owner : Option String) (skills : Value) :
      Archived (Vacancies.operation "update_vacancy_skills" vacancyId)
        (.updateOne .vacancies (Filter.scoped [("vacancy_id", vacancyId)] owner)
          [("skills", skills)])
  | insertAnalysis (a : Analysis) :
      Archived (Analyses.operation "create_analysis" [("analysis_id", .text a.analysisId)])
        (.insert .analyses a.toFields)
  | findAnalysis (analysisId : String) :
      Archived (Analyses.operation "get_analysis" [("analysis_id", .text analysisId)])
        (.findOne .analyses [("analysis_id", analysisId)])
  | listByVacancy (vacancyId : String) (owner : Option String) (limit offset : Nat) :
      Archived (Analyses.operation "list_analyses" [("vacancy_id", .text vacancyId)])
        (.findPage .analyses (Filter.scoped [("vacancy_id", vacancyId)] owner) limit offset)
  | listAnalyses (owner : Option String) (limit offset : Nat) :
      Archived (Analyses.operation "list_all_analyses" [("owner_id", .ofOption .text owner)])
        (.findPage .analyses (Filter.scoped [] owner) limit offset)
  | deleteAnalysis (analysisId : String) :
      Archived (Analyses.operation "delete_analysis" [("analysis_id", .text analysisId)])
        (.delete .analyses [("analysis_id", analysisId)])

def Among (names : List String) (op : Operation) (q : StoreCall) : Prop :=
  Archived op q ∧ ∃ name ∈ names, op.name = .text name

/-- The names of the operations that a request can be made of. -/
def Request.operations : Request → List String
  | ingest .. => ["find_resume", "save_parsed_text", "upsert_profile"]
  | rebuildProfile _ => ["get_resume", "upsert_profile"]
  | getProfile _ => ["get_resume", "get_profile"]
  | createVacancy .. => ["create_vacancy"]
  | getVacancy _ => ["get_vacancy"]
  | listVacancies .. => ["list_vacancies"]
  | updateSkills .. => ["update_vacancy_skills"]
  | createAnalysis .. =>
    ["get_vacancy", "get_resume", "get_profile", "upsert_profile", "create_analysis"]
  | getAnalysis _ => ["get_analysis"]
  | listAnalyses .. => ["list_all_analyses"]
  | listByVacancy .. => ["get_vacancy", "list_analyses"]
  | vacancyReport _ => ["get_vacancy", "list_analyses"]
  | deleteAnalysis _ => ["get_analysis", "delete_analysis"]

variable {names : List String} {name : String} {assistant : Option Assistant} {o : Occasion}
  {actor : Actor}

theorem Program.surfaces_archived {op : Operation} {q : StoreCall} (h : Archived op q)
    (hn : op.name = .text name) (hm : name ∈ names) : (call op q).Surfaces (Among names) :=
  surfaces_call ⟨h, name, hm, hn⟩

theorem Program.Looks.surfaces {α : Type} {p : Program α} (h : p.Looks fun _ => False) :
    p.Surfaces (Among names) := h.calls.surfaces

/-! ## The parts of requests -/

namespace Resumes

theorem surfaces_find (resumeId : String) (h : "find_resume" ∈ names) :
    (find resumeId).Surfaces (Among names) := by
  refine (surfaces_archived (.findResume resumeId) rfl h).bind fun found => ?_
  split
  · exact .done _
  · apply Surfaces.ite
    · exact .done _
    · exact Surfaces.map _ (looks_ofValidation _).surfaces

theorem surfaces_get (resumeId : String) (owner : Option String) (h : "get_resume" ∈ names) :
    (get resumeId owner).Surfaces (Among names) := by
  refine (surfaces_archived (.getResume resumeId owner) rfl h).bind fun found => ?_
  split
  · exact .done _
  · split <;> exact .done _

theorem surfaces_save (r : Resume) (h : "save_parsed_text" ∈ names) :
    (save r).Surfaces (Among names) := surfaces_archived (.saveResume r) rfl h

theorem surfaces_saveRecord (r : ProfileRecord) (h : "upsert_profile" ∈ names) :
    (saveRecord r).Surfaces (Among names) := surfaces_archived (.saveRecord r) rfl h

theorem surfaces_findRecord (o : Occasion) (resumeId : String) (h : "get_profile" ∈ names) :
    (findRecord o resumeId).Surfaces (Among names) := by
  refine (surfaces_archived (.findRecord resumeId) rfl h).bind fun found => ?_
  split
  · exact .done _
  · apply Surfaces.ite
    · exact .done _
    · exact Surfaces.map _ (looks_ofValidation _).surfaces

end Resumes

namespace Profiles

theorem surfaces_settle (r : ProfileRecord) (status : ProfileStatus) (error : String)
    (profile : Profile) (h : "upsert_profile" ∈ names) :
    (settle o r status error profile).Surfaces (Among names) :=
  (Resumes.surfaces_saveRecord _ h).bind fun _ => .done _

theorem surfaces_conclude (r : ProfileRecord) (reply : Option String)
    (h : "upsert_profile" ∈ names) : (conclude o r reply).Surfaces (Among names) := by
  rw [conclude]
  split
  · exact Surfaces.ite (surfaces_settle _ _ _ _ h) (surfaces_settle _ _ _ _ h)
  · exact Surfaces.ite (surfaces_settle _ _ _ _ h) (.done _)
  · exact .done _

/-- Asking makes no call, so what is recorded as a failed profile is no fault of the store. -/
theorem surfaces_inquire (text : String) : (inquire text).Surfaces (Among names) := by
  apply Calls.surfaces
  exact Calls.handle ((calls_ask _ _).map _) fun _ => trivial

theorem surfaces_buildAndSave (assistant : Option Assistant) (o : Occasion) (resumeId text : String)
    (h : "upsert_profile" ∈ names) :
    (buildAndSave assistant o resumeId text).Surfaces (Among names) := by
  apply Surfaces.holding
  rw [build]
  refine (surfaces_settle _ _ _ _ h).bind fun r => ?_
  have hgiveUp (reason : String) : (giveUp o r reason).Surfaces (Among names) :=
    surfaces_settle _ _ _ _ h
  dsimp only
  refine Surfaces.ite (hgiveUp emptyText) (Surfaces.ite (hgiveUp notConfigured) ?_)
  refine (surfaces_inquire _).bind fun reply => ?_
  cases reply with
  | error reason => exact hgiveUp reason
  | ok reply => exact surfaces_conclude r reply h

end Profiles

namespace Vacancies

theorem surfaces_ofFound (o : Occasion) (vacancyId : String) (found : Option Document) :
    (ofFound o vacancyId found).Surfaces (Among names) :=
  (looks_ofFound o vacancyId found).surfaces

theorem surfaces_create (title description : String) (skills : List Requirement)
    (h : "create_vacancy" ∈ names) :
    (create o actor title description skills).Surfaces (Among names) := by
  rw [create]
  apply Surfaces.ite
  · exact .done _
  · exact (surfaces_archived (.insertVacancy _) rfl h).bind fun _ => .done _

theorem surfaces_get (vacancyId : String) (owner : Option String) (h : "get_vacancy" ∈ names) :
    (get o vacancyId owner).Surfaces (Among names) :=
  (surfaces_archived (.getVacancy vacancyId owner) rfl h).bind fun found =>
    surfaces_ofFound o vacancyId found

theorem surfaces_list (owner : Option String) (limit offset : Nat)
    (h : "list_vacancies" ∈ names) : (list o owner limit offset).Surfaces (Among names) :=
  (surfaces_archived (.listVacancies owner limit offset) rfl h).bind fun found =>
    (looks_readAll _ found).surfaces

theorem surfaces_updateSkills (vacancyId : String) (skills : List Requirement)
    (owner : Option String) (h : "update_vacancy_skills" ∈ names) :
    (updateSkills o vacancyId skills owner).Surfaces (Among names) :=
  (surfaces_archived (.updateSkills vacancyId owner _) rfl h).bind fun found =>
    surfaces_ofFound o vacancyId found

end Vacancies

namespace Analyses

theorem surfaces_find (analysisId : String) (h : "get_analysis" ∈ names) :
    (find o analysisId).Surfaces (Among names) := by
  refine (surfaces_archived (.findAnalysis analysisId) rfl h).bind fun found => ?_
  split
  · exact .done _
  · apply Surfaces.ite
    · exact .done _
    · exact Surfaces.map _ (looks_ofValidation _).surfaces

theorem surfaces_getFor (analysisId : String) (h : "get_analysis" ∈ names) :
    (getFor o actor analysisId).Surfaces (Among names) := by
  refine (surfaces_find analysisId h).bind fun found => ?_
  split
  · exact .done _
  · exact Surfaces.ite (.done _) (.done _)

theorem surfaces_listByVacancy (vacancyId : String) (owner : Option String) (limit offset : Nat)
    (h : "list_analyses" ∈ names) :
    (listByVacancy o vacancyId owner limit offset).Surfaces (Among names) :=
  (surfaces_archived (.listByVacancy vacancyId owner limit offset) rfl h).bind fun found =>
    (looks_readAll _ found).surfaces

theorem surfaces_list (owner : Option String) (limit offset : Nat)
    (h : "list_all_analyses" ∈ names) : (list o owner limit offset).Surfaces (Among names) :=
  (surfaces_archived (.listAnalyses owner limit offset) rfl h).bind fun found =>
    (looks_readAll _ found).surfaces

theorem surfaces_deleteFor (analysisId : String) (hget : "get_analysis" ∈ names)
    (hdelete : "delete_analysis" ∈ names) :
    (deleteFor o actor analysisId).Surfaces (Among names) := by
  refine (surfaces_getFor analysisId hget).bind fun _ => ?_
  refine Surfaces.bind (p := delete analysisId) ?_ fun _ => .done _
  exact (surfaces_archived (.deleteAnalysis analysisId) rfl hdelete).bind fun _ => .done _

/-- A comment makes no call, so what is noted in a report is no fault of the store. -/
theorem surfaces_enrich (v : Vacancy) (p : Profile) (fit : Fit Float) :
    (enrich assistant v p fit).Surfaces (Among names) := (calls_enrich v p fit).surfaces

theorem surfaces_resolveRecord (resume : Resume) (hfind : "get_profile" ∈ names)
    (hsave : "upsert_profile" ∈ names) :
    (resolveRecord assistant o resume).Surfaces (Among names) := by
  refine (Resumes.surfaces_findRecord o resume.resumeId hfind).bind fun found => ?_
  cases found with
  | some record => exact .done _
  | none => exact Profiles.surfaces_buildAndSave assistant o _ _ hsave

theorem surfaces_create (resumeId vacancyId : String)
    (h : (Request.createAnalysis resumeId vacancyId).operations ⊆ names) :
    (create assistant o actor resumeId vacancyId).Surfaces (Among names) := by
  simp only [Request.operations, List.cons_subset] at h
  obtain ⟨hvacancy, hresume, hfind, hsave, hinsert, -⟩ := h
  refine (Vacancies.surfaces_get vacancyId _ hvacancy).bind fun v => ?_
  refine (Resumes.surfaces_get resumeId _ hresume).bind fun resume => ?_
  refine (surfaces_resolveRecord resume hfind hsave).bind fun record => ?_
  apply Surfaces.ite
  · exact .done _
  · refine (surfaces_enrich v record.profile _).bind fun narrated => ?_
    exact (surfaces_archived (.insertAnalysis _) rfl hinsert).bind fun _ => .done _

end Analyses

namespace Profiles

theorem surfaces_ingest (resumeId : String) (upload : Upload)
    (h : (Request.ingest resumeId upload).operations ⊆ names) :
    (ingest assistant o actor resumeId upload).Surfaces (Among names) := by
  simp only [Request.operations, List.cons_subset] at h
  obtain ⟨hfind, hresume, hsave, -⟩ := h
  refine (Resumes.surfaces_find resumeId hfind).bind fun existing => ?_
  apply Surfaces.ite
  · exact .done _
  · cases upload.text with
    | error fault => exact .done _
    | ok text =>
      refine Surfaces.bind (p := Resumes.save _) (Resumes.surfaces_save _ hresume) fun _ => ?_
      exact surfaces_buildAndSave assistant o resumeId text hsave

theorem surfaces_get (resumeId : String) (hresume : "get_resume" ∈ names)
    (hfind : "get_profile" ∈ names) : (get o actor resumeId).Surfaces (Among names) := by
  have hrecord := Resumes.surfaces_findRecord o resumeId hfind
  rw [get]
  split
  · refine (Resumes.surfaces_get resumeId _ hresume).bind fun _ => hrecord.bind fun found => ?_
    cases found <;> exact .done _
  · refine hrecord.bind fun found => ?_
    cases found <;> exact .done _

end Profiles

theorem Request.surfaces_program (assistant : Option Assistant) (o : Occasion) (actor : Actor)
    (q : Request) : (q.program assistant o actor).Surfaces (Among q.operations) := by
  cases q with
  | ingest resumeId upload =>
    exact Profiles.surfaces_ingest resumeId upload (List.Subset.refl _)
  | rebuildProfile resumeId =>
    refine (Resumes.surfaces_get resumeId _ (by simp [operations])).bind fun resume => ?_
    exact Profiles.surfaces_buildAndSave assistant o resumeId resume.text (by simp [operations])
  | getProfile resumeId =>
    exact Profiles.surfaces_get resumeId (by simp [operations]) (by simp [operations])
  | createVacancy title description skills =>
    rw [program]
    exact Vacancies.surfaces_create title description skills (by simp [operations])
  | getVacancy vacancyId => exact Vacancies.surfaces_get vacancyId _ (by simp [operations])
  | listVacancies limit offset =>
    exact Vacancies.surfaces_list _ limit offset (by simp [operations])
  | updateSkills vacancyId skills =>
    exact Vacancies.surfaces_updateSkills vacancyId skills _ (by simp [operations])
  | createAnalysis resumeId vacancyId =>
    exact Analyses.surfaces_create resumeId vacancyId (List.Subset.refl _)
  | getAnalysis analysisId => exact Analyses.surfaces_getFor analysisId (by simp [operations])
  | listAnalyses limit offset => exact Analyses.surfaces_list _ limit offset (by simp [operations])
  | listByVacancy vacancyId limit offset =>
    refine (Vacancies.surfaces_get vacancyId _ (by simp [operations])).bind fun _ => ?_
    exact Analyses.surfaces_listByVacancy vacancyId _ limit offset (by simp [operations])
  | vacancyReport vacancyId =>
    refine (Vacancies.surfaces_get vacancyId _ (by simp [operations])).bind fun v => ?_
    refine Surfaces.bind ?_ fun analyses => .done _
    exact Analyses.surfaces_listByVacancy vacancyId _ _ _ (by simp [operations])
  | deleteAnalysis analysisId =>
    exact Analyses.surfaces_deleteFor analysisId (by simp [operations]) (by simp [operations])

/-! ## What a failing call leads to -/

/-- The failure that an error of another part becomes when it leaves an operation. -/
def Operation.failed (op : Operation) (fault : Fault) : Failure where
  kind := .database
  code := .text "DATABASE_ERROR"
  message := .text ("Database error in " ++ op.name.plain ++ ": " ++ fault.text)
  details := .record (op.context ++ [("operation", op.name)])
  cause := some (.fault fault)

inductive Reported (op : Operation) : Fault → Fault → Prop where
  | failure (f : Failure) : Reported op (.failure f) (.failure f)
  | cancelled (text : String) : Reported op (.cancelled text) (.cancelled text)
  | foreign (kind : ForeignKind) (text : String) :
      Reported op (.foreign kind text) (.failure (op.failed (.foreign kind text)))
  | invalid (vs : List Violation) :
      Reported op (.invalid vs) (.failure (op.failed (.invalid vs)))

/-- The ids that a call asks for, or that of the document which it adds. -/
def StoreCall.ids : StoreCall → Fields
  | .insert c d => ((d.get? c.key).map fun v => (c.key, v)).toList
  | .findOne _ f | .findPage _ f _ _ | .setFields _ f _ | .replace _ f _ | .updateOne _ f _
  | .delete _ f => Filter.toFields (f.filter (·.1 ≠ "owner_id"))

theorem Archived.reported_wrap {op : Operation} {q : StoreCall} (h : Archived op q)
    (fault : Fault) : Reported op fault (op.wrap fault) := by
  have hdetails : op.context.merge (Failure.detailsOf .database [("operation", op.name)]) =
      op.context ++ [("operation", op.name)] := by
    cases h <;> rfl
  cases fault with
  | failure f => exact .failure f
  | cancelled text => exact .cancelled text
  | foreign kind text =>
    simp only [Operation.wrap, hdetails]
    exact .foreign kind text
  | invalid vs =>
    simp only [Operation.wrap, hdetails]
    exact .invalid vs

theorem Archived.ids_subset {op : Operation} {q : StoreCall} (h : Archived op q) :
    q.ids ⊆ op.context := by
  have hscoped (f : Filter) (owner : Option String) :
      (f.scoped owner).filter (·.1 ≠ "owner_id") = f.filter (·.1 ≠ "owner_id") := by
    cases owner <;> simp [Filter.scoped]
  cases h with
  | getResume | getVacancy | listVacancies | updateSkills | listByVacancy | listAnalyses =>
    rw [StoreCall.ids, hscoped]
    simp [Filter.toFields, Resumes.operation, Vacancies.operation, Analyses.operation]
  | _ =>
    simp [StoreCall.ids, Filter.toFields, Collection.key, Fields.get?, Vacancy.toFields,
      Analysis.toFields, Resumes.operation, Vacancies.operation, Analyses.operation]

/-- Whichever call to the store fails while a request is served, and whatever else happens, the
request fails with the fault of the call, reported by the operation that it is part of. Nothing is
done in between but to give back locks. -/
theorem store_failures_surface (assistant : Option Assistant) (o : Occasion) (actor : Actor)
    {q : Request} {before after : List Event} {call : StoreCall} {fault : Fault}
    {r : Except Fault q.Answer}
    (h : (q.program assistant o actor).Meets (before ++ ⟨.store call, .error fault⟩ :: after) r) :
    ∃ op reported, Archived op call ∧ (∃ name ∈ q.operations, op.name = .text name) ∧
      call.ids ⊆ op.context ∧ Reported op fault reported ∧ r = .error reported ∧
      ∀ e ∈ after, ∃ key, e.effect = .release key := by
  obtain ⟨op, ⟨hop, hname⟩, hr, hafter⟩ := (q.surfaces_program assistant o actor).of_meets h
  exact ⟨op, op.wrap fault, hop, hname, hop.ids_subset, hop.reported_wrap fault, hr, hafter⟩

open Analyses (noon recruiter)

def unbuilt : ProfileRecord := ⟨"r1", .failed, "", Profiles.notConfigured, .empty, noon.now⟩

/-- What happens until that record is to be stored: the pending one is in place. -/
def untilUnbuilt : List Event :=
  [⟨.store (.findOne .resumes [("resume_id", "r1"), ("owner_id", "alice")]),
      .ok (some [("resume_id", .text "r1"), ("parsed_text", .text "Gopher")])⟩,
    ⟨.acquire "r1", .ok ()⟩,
    ⟨.store (.replace .profiles [("resume_id", "r1")]
      { unbuilt with status := .pending, errorMessage := "" }.toFields), .ok ()⟩]

theorem store_failures_surface_unbuilt :
    ∃ r reported op,
      ((Request.rebuildProfile "r1").program none noon recruiter).Meets
        (untilUnbuilt ++ ⟨.store (.replace .profiles [("resume_id", "r1")] unbuilt.toFields),
          .error (.foreign .timeout "timed out")⟩ :: [⟨.release "r1", .ok ()⟩]) r ∧
      Reported op (.foreign .timeout "timed out") reported ∧ r = .error reported := by
  have h : ∃ r, ((Request.rebuildProfile "r1").program none noon recruiter).Meets
      (untilUnbuilt ++ ⟨.store (.replace .profiles [("resume_id", "r1")] unbuilt.toFields),
        .error (.foreign .timeout "timed out")⟩ :: [⟨.release "r1", .ok ()⟩]) r := by
    apply Exists.intro
    iterate 5 apply Meets.perform
    exact .done _
  obtain ⟨r, h⟩ := h
  obtain ⟨op, reported, -, -, -, hreported, hr, -⟩ := store_failures_surface none noon recruiter h
  exact ⟨r, reported, op, h, hreported, hr⟩

end Shortlist
