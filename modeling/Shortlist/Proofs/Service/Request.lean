import Mathlib.Logic.Relation
import Shortlist.Proofs.Program.Calls
import Shortlist.Proofs.Service.Lookup

/-! # Requests

All that an actor can ask for, and what it does to the store. Apart from taking in files there are
few ways: profile records of a resume that the actor reaches are put in place, and after them at
most one vacancy or analysis is made, changed or removed.
-/

namespace Shortlist

inductive Request where
  | ingest (resumeId : String) (upload : Upload)
  | rebuildProfile (resumeId : String)
  | getProfile (resumeId : String)
  | createVacancy (title description : String) (skills : List Requirement)
  | getVacancy (vacancyId : String)
  | listVacancies (limit offset : Nat)
  | updateSkills (vacancyId : String) (skills : List Requirement)
  | createAnalysis (resumeId vacancyId : String)
  | getAnalysis (analysisId : String)
  | listAnalyses (limit offset : Nat)
  | listByVacancy (vacancyId : String) (limit offset : Nat)
  | vacancyReport (vacancyId : String)
  | deleteAnalysis (analysisId : String)

namespace Request

abbrev Answer : Request → Type
  | ingest .. | rebuildProfile _ | getProfile _ => ProfileRecord
  | createVacancy .. | getVacancy _ | updateSkills .. => Vacancy
  | listVacancies .. => List Vacancy
  | createAnalysis .. | getAnalysis _ => Analysis
  | listAnalyses .. | listByVacancy .. => List Analysis
  | vacancyReport _ => Vacancy × List Analysis
  | deleteAnalysis _ => Unit

def isUpload : Request → Bool
  | ingest .. => true
  | _ => false

def program (assistant : Option Assistant) (o : Occasion) (actor : Actor) :
    (q : Request) → Program q.Answer
  | ingest resumeId upload => Profiles.ingest assistant o actor resumeId upload
  | rebuildProfile resumeId => Profiles.rebuild assistant o actor resumeId
  | getProfile resumeId => Profiles.get o actor resumeId
  | createVacancy title description skills => Vacancies.create o actor title description skills
  | getVacancy vacancyId => Vacancies.getFor o actor vacancyId
  | listVacancies limit offset => Vacancies.listFor o actor limit offset
  | updateSkills vacancyId skills => Vacancies.updateSkillsFor o actor vacancyId skills
  | createAnalysis resumeId vacancyId => Analyses.create assistant o actor resumeId vacancyId
  | getAnalysis analysisId => Analyses.getFor o actor analysisId
  | listAnalyses limit offset => Analyses.listFor o actor limit offset
  | listByVacancy vacancyId limit offset => Analyses.listByVacancyFor o actor vacancyId limit offset
  | vacancyReport vacancyId => Analyses.vacancyReport o actor vacancyId
  | deleteAnalysis analysisId => Analyses.deleteFor o actor analysisId

end Request

open Program Relation

/-! ## Building profiles -/

namespace Profiles

def IsRecording (resumeId : String) (q : StoreCall) : Prop :=
  ∃ r : ProfileRecord, r.resumeId = resumeId ∧
    q = .replace .profiles [("resume_id", resumeId)] r.toFields

/-- Nothing, or what a reply was read as. -/
def Drawn (p : Profile) : Prop :=
  p = .empty ∨ ∃ reply, Reply.decode Profile.target reply = .ok p

/-- The call that puts a record in place while the profile of a resume is built. -/
def IsBuilding (resumeId : String) (q : StoreCall) : Prop :=
  ∃ r : ProfileRecord, r.resumeId = resumeId ∧ Drawn r.profile ∧
    q = .replace .profiles [("resume_id", resumeId)] r.toFields

variable {o : Occasion} {r : ProfileRecord} {resumeId : String} {profile : Profile}

theorem calls_settle_bind (status : ProfileStatus) (error : String) (hp : Drawn profile)
    {f : ProfileRecord → Program ProfileRecord} (hr : r.resumeId = resumeId)
    (hf : ∀ r : ProfileRecord, r.resumeId = resumeId → (f r).Calls (IsBuilding resumeId)) :
    (settle o r status error profile >>= f).Calls (IsBuilding resumeId) := by
  subst hr
  let settled : ProfileRecord :=
    { r with status, errorMessage := error, profile, updatedAt := o.now }
  refine ⟨fun q hq => ⟨settled, rfl, hp, (Effect.store.inj hq).symm⟩, fun answer => ?_⟩
  cases answer with
  | error e => trivial
  | ok _ => exact hf settled rfl

theorem calls_settle (status : ProfileStatus) (error : String) (hp : Drawn profile)
    (hr : r.resumeId = resumeId) :
    (settle o r status error profile).Calls (IsBuilding resumeId) := by
  subst hr
  refine (calls_call _ ?_).bind fun _ => trivial
  exact ⟨{ r with status, errorMessage := error, profile, updatedAt := o.now }, rfl, hp, rfl⟩

theorem calls_giveUp (reason : String) (hr : r.resumeId = resumeId) :
    (giveUp o r reason).Calls (IsBuilding resumeId) := calls_settle _ _ (Or.inl rfl) hr

theorem calls_conclude (reply : Option String) (hr : r.resumeId = resumeId) :
    (conclude o r reply).Calls (IsBuilding resumeId) := by
  rw [conclude]
  split
  · next hp => exact Calls.ite (calls_giveUp _ hr) (calls_settle _ _ (Or.inr ⟨reply, hp⟩) hr)
  · exact Calls.ite (calls_giveUp _ hr) trivial
  · trivial

theorem isBuilding_buildAndSave (assistant : Option Assistant) (o : Occasion)
    (resumeId text : String) :
    (buildAndSave assistant o resumeId text).Calls (IsBuilding resumeId) := by
  refine Calls.holding ?_
  rw [build]
  refine calls_settle_bind _ _ (Or.inl rfl) rfl fun r hr => ?_
  dsimp only
  generalize Text.strip text = stripped
  refine Calls.ite (calls_giveUp _ hr) (Calls.ite (calls_giveUp _ hr) ?_)
  refine Calls.bind (((calls_ask _ _).map _).handle fun _ => trivial) fun reply => ?_
  cases reply with
  | error reason => exact calls_giveUp reason hr
  | ok reply => exact calls_conclude reply hr

theorem calls_buildAndSave (assistant : Option Assistant) (o : Occasion) (resumeId text : String) :
    (buildAndSave assistant o resumeId text).Calls (IsRecording resumeId) := by
  apply (isBuilding_buildAndSave assistant o resumeId text).mono
  rintro q ⟨r, hr, -, hq⟩
  exact ⟨r, hr, hq⟩

end Profiles

/-! ## What a request can change -/

/-- The record of a resume is put in place; if there is an owner, the resume is the owner's. -/
def Records (owner : Option String) (s s' : Store) : Prop :=
  ∃ resumeId, ∃ d ∈ s.resumes, ∃ r : ProfileRecord,
    d.fits (Filter.scoped [("resume_id", resumeId)] owner) = true ∧ r.resumeId = resumeId ∧
      s' = (s.answer (.replace .profiles [("resume_id", resumeId)] r.toFields)).2

theorem Records.rest_eq {owner : Option String} {s s' : Store} (h : Records owner s s') :
    s'.resumes = s.resumes ∧ s'.vacancies = s.vacancies ∧ s'.analyses = s.analyses := by
  obtain ⟨resumeId, d, _, r, _, _, rfl⟩ := h
  obtain ⟨ds, _, he⟩ := s.answer_replace .profiles [("resume_id", resumeId)] r.toFields
  rw [he]
  exact ⟨rfl, rfl, rfl⟩

theorem rest_eq_of_records {owner : Option String} {s s' : Store}
    (h : ReflTransGen (Records owner) s s') :
    s'.resumes = s.resumes ∧ s'.vacancies = s.vacancies ∧ s'.analyses = s.analyses := by
  induction h with
  | refl => exact ⟨rfl, rfl, rfl⟩
  | tail _ h ih =>
    obtain ⟨hr, hv, ha⟩ := Records.rest_eq h
    exact ⟨hr.trans ih.1, hv.trans ih.2.1, ha.trans ih.2.2⟩

/-- The other ways to change the store on an occasion: a vacancy is made, or gets other
requirements; an analysis is made or goes. The actor reaches what is changed or referred to. -/
inductive Change (actor : Actor) (o : Occasion) (s : Store) : Store → Prop where
  | vacancy {v : Vacancy} (hid : v.vacancyId = o.freshId) (hown : v.ownerId = some actor.userId) :
      Change actor o s (s.answer (.insert .vacancies v.toFields)).2
  | skills (vacancyId : String) (skills : List Requirement) :
      Change actor o s (s.answer (.updateOne .vacancies
        (Filter.scoped [("vacancy_id", vacancyId)] actor.scope)
        [("skills", .list (skills.map Requirement.toValue))])).2
  | analysis {a : Analysis} {dv dr : Document} {v : Vacancy} {resumeOwner : Option String}
      {p : Profile} (hid : a.analysisId = o.freshId) (hdv : dv ∈ s.vacancies)
      (hv : dv.fits (Filter.scoped [("vacancy_id", a.vacancyId)] actor.scope) = true)
      (hread : Vacancy.ofFields o (dv.erase "_id") = .valid v) (hdr : dr ∈ s.resumes)
      (hr : dr.fits (Filter.scoped [("resume_id", a.resumeId)] actor.scope) = true)
      (hown : a.ownerId = some (analysisOwner actor v resumeOwner))
      (hscore : a.score = (p.fit v.skills).score) :
      Change actor o s (s.answer (.insert .analyses a.toFields)).2
  | removal {analysisId : String} {d : Document}
      (hd : s.analyses.find? (Document.fits [("analysis_id", analysisId)]) = some d)
      (hown : actor.isAdmin = true ∨ d.holds "owner_id" actor.userId = true) :
      Change actor o s (s.answer (.delete .analyses [("analysis_id", analysisId)])).2

variable {assistant : Option Assistant} {o : Occasion} {actor : Actor} {s s' : Store}

theorem Profiles.records_of_yields {resumeId text : String} {r : Except Fault ProfileRecord}
    {d : Document} (hd : d ∈ s.resumes)
    (hf : d.fits (Filter.scoped [("resume_id", resumeId)] actor.scope) = true)
    (h : (buildAndSave assistant o resumeId text).Yields s r s') :
    ReflTransGen (Records actor.scope) s s' := by
  refine (calls_buildAndSave assistant o resumeId text).invariant ?_ h .refl
  rintro q t ⟨r, hr, rfl⟩ ht
  refine ht.tail ⟨resumeId, d, ?_, r, hf, hr, rfl⟩
  rwa [(rest_eq_of_records ht).1]

theorem Profiles.yields_rebuild {resumeId : String} {r : Except Fault ProfileRecord}
    (h : (rebuild assistant o actor resumeId).Yields s r s') :
    ReflTransGen (Records actor.scope) s s' := by
  obtain ⟨resume, s₁, hget, hb⟩ | ⟨fault, hget, -⟩ := yields_bind_iff.mp h
  · obtain ⟨rfl, d, hd, -⟩ := Resumes.of_yields_get hget
    exact records_of_yields (List.mem_of_find?_eq_some hd) (List.find?_some hd) hb
  · rw [(Resumes.looks_get _ _ (by rfl)).eq_of_yields hget]

namespace Vacancies

theorem yields_create {title description : String} {skills : List Requirement}
    {r : Except Fault Vacancy} (h : (create o actor title description skills).Yields s r s') :
    ReflGen (Change actor o) s s' := by
  rw [create] at h
  dsimp only at h
  split at h
  · rw [(yields_done_iff.mp h).2]
  · obtain ⟨_, s₁, hi, hp⟩ | ⟨fault, hi, -⟩ := yields_bind_iff.mp h
    · obtain ⟨-, rfl⟩ := yields_done_iff.mp hp
      obtain ⟨-, rfl⟩ := yields_call_ok_iff.mp hi
      exact .single (.vacancy rfl rfl)
    · rw [eq_of_yields_call_error hi]

theorem yields_updateSkillsFor {vacancyId : String} {skills : List Requirement}
    {r : Except Fault Vacancy} (h : (updateSkillsFor o actor vacancyId skills).Yields s r s') :
    ReflGen (Change actor o) s s' := by
  obtain ⟨found, s₁, hu, hf⟩ | ⟨fault, hu, -⟩ := yields_bind_iff.mp h
  · obtain rfl := (looks_ofFound o vacancyId found).eq_of_yields hf
    obtain ⟨-, rfl⟩ := yields_call_ok_iff.mp hu
    exact .single (.skills vacancyId (Weighted.collapse skills))
  · rw [eq_of_yields_call_error hu]

end Vacancies

namespace Analyses

theorem yields_deleteFor {analysisId : String} {r : Except Fault Unit}
    (h : (deleteFor o actor analysisId).Yields s r s') : ReflGen (Change actor o) s s' := by
  obtain ⟨a, s₁, hget, hrest⟩ | ⟨fault, hget, -⟩ := yields_bind_iff.mp h
  · obtain ⟨rfl, d, hd, hread, hown⟩ := of_yields_getFor o hget
    have hchange : Change actor o s₁
        (s₁.answer (.delete .analyses [("analysis_id", analysisId)])).2 :=
      .removal hd (hown.imp_right (holds_owner o hread))
    obtain ⟨_, s₂, hdel, hp⟩ | ⟨fault, hdel, -⟩ := yields_bind_iff.mp hrest
    · obtain ⟨-, rfl⟩ := yields_done_iff.mp hp
      obtain ⟨count, s₃, hcall, hp⟩ := yields_bind_ok_iff.mp hdel
      obtain ⟨-, rfl⟩ := yields_pure_ok_iff.mp hp
      obtain ⟨-, rfl⟩ := yields_call_ok_iff.mp hcall
      exact .single hchange
    · obtain ⟨count, s₃, -, hp⟩ | ⟨_, hcall, -⟩ := yields_bind_iff.mp hdel
      · cases (yields_done_iff.mp hp).1
      · rw [eq_of_yields_call_error hcall]
  · rw [(looks_getFor o actor analysisId (by rfl)).eq_of_yields hget]

theorem yields_resolveRecord {resume : Resume} {r : Except Fault ProfileRecord} {d : Document}
    (hd : d ∈ s.resumes)
    (hf : d.fits (Filter.scoped [("resume_id", resume.resumeId)] actor.scope) = true)
    (h : (resolveRecord assistant o resume).Yields s r s') :
    ReflTransGen (Records actor.scope) s s' := by
  obtain ⟨found, s₁, hfind, hb⟩ | ⟨fault, hfind, -⟩ := yields_bind_iff.mp h
  · obtain rfl := (Resumes.looks_findRecord o resume.resumeId (by rfl)).eq_of_yields hfind
    cases found with
    | some record => rw [(yields_done_iff.mp hb).2]
    | none => exact Profiles.records_of_yields hd hf hb
  · rw [(Resumes.looks_findRecord o resume.resumeId (by rfl)).eq_of_yields hfind]

theorem calls_enrich (v : Vacancy) (p : Profile) (fit : Fit Float) :
    (enrich assistant v p fit).Calls fun _ => False := by
  cases assistant with
  | none => trivial
  | some a =>
    refine (Calls.map _ ?_).handle fun _ => trivial
    refine (calls_ask _ _).bind fun reply => ?_
    exact Calls.bind (p := ofExcept _) trivial fun narrative => Calls.ite trivial trivial

theorem eq_of_yields_enrich {v : Vacancy} {p : Profile} {fit : Fit Float}
    {r : Except Fault (Report × String)} (h : (enrich assistant v p fit).Yields s r s') : s' = s :=
  (calls_enrich v p fit).invariant (fun _ _ hq => hq.elim) h (I := (· = s)) rfl

/-- Making an analysis may build the profile first; the analysis is that of a vacancy and a resume
that the actor reaches. -/
theorem yields_create {resumeId vacancyId : String} {r : Except Fault Analysis}
    (h : (create assistant o actor resumeId vacancyId).Yields s r s') :
    ∃ s₁, ReflTransGen (Records actor.scope) s s₁ ∧ ReflGen (Change actor o) s₁ s' := by
  obtain ⟨v, s₁, hv, h₁⟩ | ⟨fault, hv, -⟩ := yields_bind_iff.mp h
  swap
  · rw [(Vacancies.looks_get o vacancyId _ (by rfl)).eq_of_yields hv]
    exact ⟨s, .refl, .refl⟩
  obtain ⟨rfl, dv, hdv, hread⟩ := Vacancies.of_yields_get o hv
  obtain ⟨resume, s₂, hr, h₂⟩ | ⟨fault, hr, -⟩ := yields_bind_iff.mp h₁
  swap
  · rw [(Resumes.looks_get resumeId _ (by rfl)).eq_of_yields hr]
    exact ⟨s₁, .refl, .refl⟩
  obtain ⟨rfl, dr, hdr, hresume⟩ := Resumes.of_yields_get hr
  have hid := Resumes.resumeId_of_readText hresume
  have hmem := List.mem_of_find?_eq_some hdr
  have hfits := List.find?_some hdr
  obtain ⟨record, s₃, hrec, h₃⟩ | ⟨fault, hrec, -⟩ := yields_bind_iff.mp h₂
  swap
  · exact ⟨s', yields_resolveRecord hmem (hid.symm ▸ hfits) hrec, .refl⟩
  have hsteps := yields_resolveRecord hmem (hid.symm ▸ hfits) hrec
  refine ⟨s₃, hsteps, ?_⟩
  obtain ⟨hres, hvac, -⟩ := rest_eq_of_records hsteps
  split at h₃
  · rw [(yields_done_iff.mp h₃).2]
  · obtain ⟨⟨report, model⟩, s₄, he, h₄⟩ | ⟨fault, he, -⟩ := yields_bind_iff.mp h₃
    · obtain rfl := eq_of_yields_enrich he
      obtain ⟨_, s₅, hi, hp⟩ | ⟨fault, hi, -⟩ := yields_bind_iff.mp h₄
      · obtain ⟨-, rfl⟩ := yields_done_iff.mp hp
        obtain ⟨-, rfl⟩ := yields_call_ok_iff.mp hi
        refine .single (.analysis rfl ?_ (List.find?_some hdv) hread ?_ hfits rfl rfl)
        · exact hvac.symm ▸ List.mem_of_find?_eq_some hdv
        · exact hres.symm ▸ hmem
      · rw [eq_of_yields_call_error hi]
    · rw [eq_of_yields_enrich he]

end Analyses

/-- Whatever becomes of a request other than an upload, records of reached resumes are put in place,
and then there is at most one other change. -/
theorem Request.yields_program {q : Request} (hq : q.isUpload = false) {r : Except Fault q.Answer}
    (h : (q.program assistant o actor).Yields s r s') :
    ∃ s₁, ReflTransGen (Records actor.scope) s s₁ ∧ ReflGen (Change actor o) s₁ s' := by
  have hread (hp : (q.program assistant o actor).ReadOnly) :
      ∃ s₁, ReflTransGen (Records actor.scope) s s₁ ∧ ReflGen (Change actor o) s₁ s' := by
    rw [hp.eq_of_yields h]
    exact ⟨s, .refl, .refl⟩
  cases q with
  | ingest resumeId upload => simp [isUpload] at hq
  | rebuildProfile resumeId => exact ⟨s', Profiles.yields_rebuild h, .refl⟩
  | getProfile resumeId => exact hread (Profiles.readOnly_get o actor resumeId)
  | createVacancy title description skills =>
    rw [program] at h
    exact ⟨s, .refl, Vacancies.yields_create h⟩
  | getVacancy vacancyId => exact hread (Vacancies.looks_get o vacancyId _ (by rfl))
  | listVacancies limit offset => exact hread (Vacancies.looks_list o _ limit offset (by rfl))
  | updateSkills vacancyId skills => exact ⟨s, .refl, Vacancies.yields_updateSkillsFor h⟩
  | createAnalysis resumeId vacancyId => exact Analyses.yields_create h
  | getAnalysis analysisId => exact hread (Analyses.looks_getFor o actor analysisId (by rfl))
  | listAnalyses limit offset => exact hread (Analyses.looks_list o _ limit offset (by rfl))
  | listByVacancy vacancyId limit offset =>
    exact hread (Analyses.readOnly_listByVacancyFor o actor vacancyId limit offset)
  | vacancyReport vacancyId => exact hread (Analyses.readOnly_vacancyReport o actor vacancyId)
  | deleteAnalysis analysisId => exact ⟨s, .refl, Analyses.yields_deleteFor h⟩

/-! ## Jobs -/

structure Job where
  occasion : Occasion
  actor : Actor
  request : Request

/-- How a job is done, without what it gives. -/
def Job.program (assistant : Option Assistant) (j : Job) : Program Unit :=
  (j.request.program assistant j.occasion j.actor).andThen fun r => .done (r.map fun _ => ())

end Shortlist
