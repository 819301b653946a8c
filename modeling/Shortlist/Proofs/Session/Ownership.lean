import Shortlist.Proofs.Analysis.Enrichment
import Shortlist.Proofs.Session.Consistent

/-! # Ownership

What can be relied on in any session: who owns a resume or a vacancy is settled once and for all,
and nobody but an administrator can take over somebody else's resume. An analysis belongs to the
owner of its vacancy, so that owners and administrators see the same analyses of a vacancy.
-/

namespace Shortlist

open Program Relation

variable {issued : List String} {s : Store} {o : Occasion} {actor : Actor} {w : World}

/-! ## Reading what a consistent store holds -/

theorem Analyses.readAll_stored {ds : List Document}
    (h : ∀ d ∈ ds, ∃ a : Analysis, d = a.toFields ∧
      Analysis.score? (.float a.score) = .valid a.score) :
    ∃ as : List Analysis, ∀ o, readAll (Analysis.ofFields o) ds = .done (.ok as) := by
  induction ds with
  | nil => exact ⟨[], fun _ => rfl⟩
  | cons d ds ih =>
    obtain ⟨as, has⟩ := ih fun x hx => h x (List.mem_cons_of_mem _ hx)
    obtain ⟨a, rfl, hscore⟩ := h d List.mem_cons_self
    refine ⟨a :: as, fun o => ?_⟩
    have hstored : Document.stored? a.toFields = some a.toFields := rfl
    rw [readAll, hstored]
    simp only [Analysis.ofFields_toFields o hscore, has o]
    rfl

namespace Consistent

variable {d : Document} {vacancyId resumeId : String}

theorem run_getVacancy (h : Consistent issued w.store) (hw : w.pendingFaults = [])
    (hd : d ∈ w.store.vacancies) (hid : d.holds "vacancy_id" vacancyId = true)
    (hreach : actor.scope.all (fun u => d.holds "owner_id" u) = true) :
    ∃ v, (Vacancies.get o vacancyId actor.scope).run w = (.ok v, w) := by
  obtain ⟨v, rfl, -, -⟩ := h.vacancies d hd
  have hfit : Document.fits (Filter.scoped [("vacancy_id", vacancyId)] actor.scope) v.toFields =
      true := by
    rw [Document.fits_scoped, Document.fits_singleton, hid, hreach]
    rfl
  have hfound : (w.store.answer (.findOne .vacancies
      (Filter.scoped [("vacancy_id", vacancyId)] actor.scope))).1 = some v.toFields := by
    refine (h.unique .vacancies).find?_eq_some_of_fits hd hid hfit fun x hx => ?_
    rw [Document.fits_scoped, Bool.and_eq_true, Document.fits_singleton] at hx
    exact hx.1
  have hcall := run_call_read (w := w) (Vacancies.operation "get_vacancy" vacancyId)
    (q := .findOne .vacancies (Filter.scoped [("vacancy_id", vacancyId)] actor.scope)) rfl
    (by rw [hw]; rfl)
  rw [hfound] at hcall
  refine ⟨{ v with skills := Weighted.collapse v.skills }, (run_bind_ok hcall).trans ?_⟩
  have hread : Vacancies.ofFound o vacancyId (some v.toFields) =
      .ofValidation (Vacancy.ofFields o v.toFields) := rfl
  rw [hread, Vacancy.ofFields_toFields]
  rfl

theorem filter_analyses (h : Consistent issued s) (hd : d ∈ s.vacancies)
    (hid : d.holds "vacancy_id" vacancyId = true)
    (hreach : actor.scope.all (fun u => d.holds "owner_id" u) = true) :
    s.analyses.filter (Document.fits (Filter.scoped [("vacancy_id", vacancyId)] actor.scope)) =
      s.analyses.filter (Document.fits [("vacancy_id", vacancyId)]) := by
  refine List.filter_congr fun x hx => ?_
  rw [Document.fits_scoped]
  cases hfit : x.fits [("vacancy_id", vacancyId)] with
  | false => rfl
  | true =>
    obtain ⟨a, rfl, -, -, u, hu, ⟨v, hv, hvid, hvu⟩, -⟩ := h.analyses x hx
    rw [Document.fits_singleton] at hfit
    have haid : a.vacancyId = vacancyId := by
      simpa [Document.holds, Analysis.toFields, Fields.get?] using hfit
    obtain rfl : v = d := (h.unique .vacancies).eq_of_holds hv hd hvid (haid ▸ hid)
    have hau : Document.holds a.toFields "owner_id" u = true := by
      simp [Document.holds_iff, Analysis.toFields, Fields.get?, hu, Value.ofOption]
    rw [Bool.true_and]
    cases hs : actor.scope with
    | none => rfl
    | some u' =>
      rw [hs, Option.all_some] at hreach
      rw [Option.all_some, Document.eq_of_holds hreach hvu, hau]

theorem run_listByVacancyFor (h : Consistent issued s) (hd : d ∈ s.vacancies)
    (hid : d.holds "vacancy_id" vacancyId = true) (limit offset : Nat) :
    ∃ as : List Analysis, ∀ (o : Occasion) (actor : Actor) (w : World), w.store = s →
      w.pendingFaults = [] → actor.scope.all (fun u => d.holds "owner_id" u) = true →
      (Analyses.listByVacancyFor o actor vacancyId limit offset).run w = (.ok as, w) := by
  let page := (s.answer (.findPage .analyses [("vacancy_id", vacancyId)] limit offset)).1
  have hpage : ∀ x ∈ page, ∃ a : Analysis, x = a.toFields ∧
      Analysis.score? (.float a.score) = .valid a.score := by
    intro x hx
    have hmem := List.mem_of_mem_drop (List.mem_of_mem_take hx)
    rw [List.mem_mergeSort] at hmem
    obtain ⟨a, ha, -, hscore, -⟩ := h.analyses x (List.mem_of_mem_filter hmem)
    exact ⟨a, ha, hscore⟩
  obtain ⟨as, has⟩ := Analyses.readAll_stored hpage
  refine ⟨as, ?_⟩
  rintro o actor w rfl hw hreach
  obtain ⟨v, hv⟩ := h.run_getVacancy (o := o) hw hd hid hreach
  have hfound : (w.store.answer (.findPage .analyses
      (Filter.scoped [("vacancy_id", vacancyId)] actor.scope) limit offset)).1 = page := by
    have hfilter := h.filter_analyses hd hid hreach
    simp only [page, Store.answer]
    rw [show w.store.documents .analyses = w.store.analyses from rfl, hfilter]
  have hcall := run_call_read (w := w)
    (Analyses.operation "list_analyses" [("vacancy_id", .text vacancyId)])
    (q := .findPage .analyses (Filter.scoped [("vacancy_id", vacancyId)] actor.scope) limit offset)
    rfl (by rw [hw]; rfl)
  rw [hfound] at hcall
  refine (run_bind_ok hv).trans ((run_bind_ok hcall).trans ?_)
  rw [has o]
  rfl

section Ingest

variable {assistant : Option Assistant} {upload : Upload} {u : String}

/-- Somebody else's resume is read as theirs, so that the upload is out of scope. -/
theorem exists_ofDocument (h : Consistent issued s) (hactor : actor.isAdmin = false)
    (resumeId : String) (hd : d ∈ s.resumes) (hown : d.holds "owner_id" u = true)
    (hne : u ≠ actor.userId) :
    ∃ e, Resumes.ofDocument resumeId d = .valid e ∧
      actor.scope.any (· ≠ Profiles.ownerOf actor (some e)) = true := by
  have hform := h.resumes d hd
  obtain ⟨e, he, heu⟩ := Resumes.ofDocument_of_isResume hform hown resumeId
  have hu : u ≠ "" := by
    obtain ⟨u', hne', hu'⟩ := hform.owner
    rwa [Document.eq_of_holds hown hu']
  refine ⟨e, he, ?_⟩
  rw [Profiles.ownerOf_of_ownerId heu hu]
  simpa [Actor.scope, hactor] using hne.symm

theorem yields_ingest (h : Consistent issued s) {r : Except Fault ProfileRecord} {s' : Store}
    (hactor : actor.isAdmin = false) (hd : d ∈ s.resumes)
    (hid : d.holds "resume_id" resumeId = true) (hown : d.holds "owner_id" u = true)
    (hne : u ≠ actor.userId)
    (hy : (Profiles.ingest assistant o actor resumeId upload).Yields s r s') :
    s' = s ∧ (r = .error (.failure (Profiles.unknownResume resumeId)) ∨
      ∃ fault, r = .error ((Resumes.operation "find_resume" resumeId .resumes).wrap fault)) := by
  obtain ⟨e, he, hscope⟩ := h.exists_ofDocument hactor resumeId hd hown hne
  exact Profiles.yields_ingest_refused ((h.unique .resumes).find?_eq_some hd hid) he hscope hy

theorem run_ingest (h : Consistent issued w.store)
    (hw : w.pendingFaults.find?
      (PendingFault.awaits (.findOne .resumes [("resume_id", resumeId)])) = none)
    (hactor : actor.isAdmin = false) (hd : d ∈ w.store.resumes)
    (hid : d.holds "resume_id" resumeId = true) (hown : d.holds "owner_id" u = true)
    (hne : u ≠ actor.userId) :
    (Profiles.ingest assistant o actor resumeId upload).run w =
      (.error (.failure (Profiles.unknownResume resumeId)), w) := by
  obtain ⟨e, he, hscope⟩ := h.exists_ofDocument hactor resumeId hd hown hne
  have hcall := run_call_read (Resumes.operation "find_resume" resumeId .resumes)
    (q := .findOne .resumes [("resume_id", resumeId)]) rfl hw
  have hfound : (w.store.answer (.findOne .resumes [("resume_id", resumeId)])).1 = some d :=
    (h.unique .resumes).find?_eq_some hd hid
  rw [hfound] at hcall
  have hfind : (Resumes.find resumeId).run w = (.ok (some e), w) := by
    have hne : d.isEmpty = false := by
      cases d with
      | nil => simp [Document.holds, Fields.get?] at hid
      | cons => rfl
    refine (run_bind_ok hcall).trans ?_
    simp only [hne, he]
    rfl
  refine (run_bind_ok hfind).trans ?_
  dsimp only
  rw [if_pos hscope]
  rfl

end Ingest

end Consistent

structure Session.Owned (σ : Session) : Prop where
  /-- Every document has an id. -/
  keyed : ∀ c, ∀ d ∈ σ.store.documents c, ∃ id, d.holds c.key id = true
  /-- No two documents of a collection have the same. -/
  unique : σ.store.UniqueIds
  /-- Resumes and vacancies stay, and nobody else ever owns what has their id. -/
  settled : ∀ τ, ReflTransGen Step σ τ → ∀ c, c = .resumes ∨ c = .vacancies →
    ∀ d ∈ σ.store.documents c,
      (∃ d' ∈ τ.store.documents c, d'.get? c.key = d.get? c.key) ∧
      ∀ d' ∈ τ.store.documents c, d'.get? c.key = d.get? c.key →
        d'.get? "owner_id" = d.get? "owner_id"
  /-- A file for somebody else's resume changes nothing, unless an administrator sends it. It fails
  because the resume is unknown, or because it could not be looked up. -/
  refused : ∀ {assistant o actor resumeId upload d u r s'}, actor.isAdmin = false →
    d ∈ σ.store.resumes → d.holds "resume_id" resumeId = true → d.holds "owner_id" u = true →
    u ≠ actor.userId →
    (Profiles.ingest assistant o actor resumeId upload).Yields σ.store r s' →
      s' = σ.store ∧ (r = .error (.failure (Profiles.unknownResume resumeId)) ∨
        ∃ fault, r = .error ((Resumes.operation "find_resume" resumeId .resumes).wrap fault))
  /-- It is refused as unknown where the lookup does not fail. -/
  unknown : ∀ {assistant o actor resumeId upload d u w}, actor.isAdmin = false →
    d ∈ σ.store.resumes → d.holds "resume_id" resumeId = true → d.holds "owner_id" u = true →
    u ≠ actor.userId → w.store = σ.store →
    w.pendingFaults.find?
      (PendingFault.awaits (.findOne .resumes [("resume_id", resumeId)])) = none →
    (Profiles.ingest assistant o actor resumeId upload).run w =
      (.error (.failure (Profiles.unknownResume resumeId)), w)
  /-- An analysis refers to a vacancy of its owner and to a resume. -/
  referring : ∀ d ∈ σ.store.analyses, ∃ vacancyId resumeId u,
    d.holds "vacancy_id" vacancyId = true ∧ d.holds "resume_id" resumeId = true ∧
      d.holds "owner_id" u = true ∧
    (∃ v ∈ σ.store.vacancies, v.holds "vacancy_id" vacancyId = true ∧
      v.holds "owner_id" u = true) ∧
    ∃ r ∈ σ.store.resumes, r.holds "resume_id" resumeId = true
  /-- The owner of a vacancy and every administrator get the same list of its analyses. -/
  listed : ∀ v ∈ σ.store.vacancies, ∀ vacancyId u, v.holds "vacancy_id" vacancyId = true →
    v.holds "owner_id" u = true → ∀ limit offset, ∃ as, ∀ o actor w, w.store = σ.store →
      w.pendingFaults = [] → (actor.isAdmin = true ∨ actor.userId = u) →
      (Analyses.listByVacancyFor o actor vacancyId limit offset).run w = (.ok as, w)

theorem Consistent.keyed (h : Consistent issued s) (c : Collection) :
    ∀ d ∈ s.documents c, ∃ id, d.holds c.key id = true := by
  intro d hd
  cases c with
  | resumes => exact (h.resumes d hd).id
  | profiles =>
    obtain ⟨r, rfl⟩ := h.profiles d hd
    exact ⟨r.resumeId, Document.holds_iff.mpr rfl⟩
  | vacancies =>
    obtain ⟨v, rfl, -⟩ := h.vacancies d hd
    exact ⟨v.vacancyId, Document.holds_iff.mpr rfl⟩
  | analyses =>
    obtain ⟨a, rfl, -⟩ := h.analyses d hd
    exact ⟨a.analysisId, Document.holds_iff.mpr rfl⟩

/-- Where ids are unique, a document that is kept is the only one with its id. -/
theorem Keeps.settled {key : String} {ds ds' : List Document} (h : Keeps key ds ds')
    (hu : UniqueIn key ds') {d : Document} (hd : d ∈ ds) {id : String}
    (hid : d.holds key id = true) :
    (∃ d' ∈ ds', d'.get? key = d.get? key) ∧
      ∀ d' ∈ ds', d'.get? key = d.get? key → d'.get? "owner_id" = d.get? "owner_id" := by
  obtain ⟨d', hd', hk, ho⟩ := h d hd
  refine ⟨⟨d', hd', hk⟩, fun x hx hxk => ?_⟩
  rw [Document.holds_iff] at hid
  rw [hu.eq_of_holds hx hd' (Document.holds_iff.mpr (hxk.trans hid))
    (Document.holds_iff.mpr (hk.trans hid)), ho]

namespace Session

/-- Ownership is settled in every session. -/
theorem owned_of_reached {σ : Session} (h : σ.Reached) : σ.Owned where
  keyed := h.consistent.keyed
  unique := h.consistent.unique
  settled := by
    intro τ hτ c hc d hd
    obtain ⟨hcτ, hext⟩ := consistent_of_steps hτ h.consistent
    obtain ⟨id, hid⟩ := h.consistent.keyed c d hd
    rcases hc with rfl | rfl
    · exact hext.resumes.settled (hcτ.unique .resumes) hd hid
    · exact hext.vacancies.settled (hcτ.unique .vacancies) hd hid
  refused hactor hd hid hown hne hy := h.consistent.yields_ingest hactor hd hid hown hne hy
  unknown := by
    intro assistant o actor resumeId upload d u w hactor hd hid hown hne hs hw
    have hc := h.consistent
    rw [← hs] at hc hd
    exact hc.run_ingest hw hactor hd hid hown hne
  referring := by
    intro d hd
    obtain ⟨a, rfl, -, -, u, hu, hv, hr⟩ := h.consistent.analyses d hd
    exact ⟨a.vacancyId, a.resumeId, u, Document.holds_iff.mpr rfl, Document.holds_iff.mpr rfl,
      by simp [Document.holds_iff, Analysis.toFields, Fields.get?, hu, Value.ofOption], hv, hr⟩
  listed := by
    intro v hv vacancyId u hid hown limit offset
    obtain ⟨as, has⟩ := h.consistent.run_listByVacancyFor hv hid limit offset
    refine ⟨as, fun o actor w hs hw hactor => has o actor w hs hw ?_⟩
    cases ha : actor.isAdmin with
    | true => simp [Actor.scope, ha]
    | false =>
      obtain rfl := hactor.resolve_left (by simp [ha])
      simpa [Actor.scope, ha] using hown

section Office

open Analyses

def plainFile : Upload := ⟨some "cv.txt", "Gopher".toUTF8.toList, .ok none, .ok []⟩

def extractor : Option Assistant := some ⟨"m"⟩

/-- An empty store, and a service that always describes the same candidate. -/
def beforeOpening : World :=
  { World.quiet .empty with
    replies := [.ok (some "\x7b\"summary\": \"Gopher\", \"skills\": [\"Go\"]\x7d")] }

/-- The world after an actor's request on an occasion with a new id. -/
def after (w : World) (id : String) (actor : Actor) (q : Request) : World :=
  ((q.program extractor { noon with freshId := id } actor).run w).2

theorem step_after (w : World) {id : String} {actor : Actor} (q : Request) {issued : List String}
    (hactor : actor.userId ≠ "") (hid : id ∉ issued) :
    Step ⟨w.store, issued⟩ ⟨(after w id actor q).store, id :: issued⟩ := by
  have h := yields_run (q.program extractor { noon with freshId := id } actor) w
  exact .serve (o := { noon with freshId := id }) hactor hid h

def advertised : World :=
  after beforeOpening "v1" recruiter (.createVacancy "Gopher" "" [⟨"Go", 1.0⟩])

def applied : World := after advertised "u1" recruiter (.ingest "r1" plainFile)

def compared : World := after applied "a1" ⟨"chief", true⟩ (.createAnalysis "r1" "v1")

/-- A recruiter makes a vacancy and takes in a resume, and an administrator compares the two. -/
def office : Session := ⟨compared.store, ["a1", "u1", "v1"]⟩

theorem reached_office : office.Reached :=
  ((ReflTransGen.single (step_after beforeOpening _ (by decide) (by decide))).tail
    (step_after advertised _ (by decide) (by decide))).tail
    (step_after applied _ (by decide) (by decide))

/-- In the office there is an analysis, the recruiter and the administrator see the same list, and
nobody else can take over the resume. -/
theorem owned_of_reached_office : office.Owned ∧ office.store.analyses.length = 1 ∧
    (Profiles.ingest extractor noon ⟨"bob", false⟩ "r1" plainFile).run (.quiet office.store) =
      (.error (.failure (Profiles.unknownResume "r1")), .quiet office.store) ∧
    ∃ as,
      (listByVacancyFor noon recruiter "v1" 50 0).run (.quiet office.store) =
        (.ok as, .quiet office.store) ∧
      (listByVacancyFor noon ⟨"chief", true⟩ "v1" 50 0).run (.quiet office.store) =
        (.ok as, .quiet office.store) := by
  have howned := owned_of_reached reached_office
  have hresume : office.store.resumes.any (fun d =>
      d.holds "resume_id" "r1" && d.holds "owner_id" "alice") = true := by decide +kernel
  obtain ⟨d, hd, hrid, hrown⟩ : ∃ d ∈ office.store.resumes, d.holds "resume_id" "r1" = true ∧
      d.holds "owner_id" "alice" = true := by simpa using hresume
  have hvacancy : office.store.vacancies.any (fun d =>
      d.holds "vacancy_id" "v1" && d.holds "owner_id" "alice") = true := by decide +kernel
  obtain ⟨v, hv, hvid, hvown⟩ : ∃ v ∈ office.store.vacancies, v.holds "vacancy_id" "v1" = true ∧
      v.holds "owner_id" "alice" = true := by simpa using hvacancy
  obtain ⟨as, has⟩ := howned.listed v hv "v1" "alice" hvid hvown 50 0
  exact ⟨howned, by decide +kernel, howned.unknown rfl hd hrid hrown (by decide) rfl rfl, as,
    has noon recruiter _ rfl rfl (.inr rfl), has noon ⟨"chief", true⟩ _ rfl rfl (.inl rfl)⟩

end Office

end Session

end Shortlist
