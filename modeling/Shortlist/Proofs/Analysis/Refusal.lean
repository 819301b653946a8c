import Shortlist.Proofs.Analysis.Enrichment

/-! # When an analysis is refused

A request for an analysis needs a vacancy and a resume with a text that the actor sees, and a
profile record that is ok; it is refused for the first of them that is missing. What it finds wrong
before a build it finds without a question and without a write.
-/

namespace Shortlist

open Program

variable {w w' : World} {assistant : Option Assistant} {o : Occasion} {actor : Actor}
  {owner : Option String} {resumeId vacancyId : String} {d : Document}

/-! ## Lookups where no call fails -/

namespace Vacancies

theorem run_get_of_none (hw : w.pendingFaults = [])
    (hnone : w.store.vacancies.find?
      (Document.fits (Filter.scoped [("vacancy_id", vacancyId)] owner)) = none) :
    (get o vacancyId owner).run w = (.error (.failure (unknown vacancyId)), w) := by
  have hcall := run_call_read (w := w) (operation "get_vacancy" vacancyId)
    (q := .findOne .vacancies (Filter.scoped [("vacancy_id", vacancyId)] owner)) rfl
    (by rw [hw]; rfl)
  have hanswer : (w.store.answer (.findOne .vacancies
      (Filter.scoped [("vacancy_id", vacancyId)] owner))).1 = none := hnone
  rw [hanswer] at hcall
  exact run_bind_ok hcall

theorem ofFound_of_holds {v : Vacancy} (hid : d.holds "vacancy_id" vacancyId = true)
    (hv : Vacancy.ofFields o (d.erase "_id") = .valid v) :
    ofFound o vacancyId (some d) = .done (.ok v) := by
  rw [ofFound, Option.bind_some, Document.stored?_of_holds hid]
  dsimp only
  rw [Document.isEmpty_erase_of_holds hid (by decide), if_neg Bool.false_ne_true, hv]
  rfl

theorem run_get_of_some {v : Vacancy} (hw : w.pendingFaults = [])
    (hd : w.store.vacancies.find?
      (Document.fits (Filter.scoped [("vacancy_id", vacancyId)] owner)) = some d)
    (hv : Vacancy.ofFields o (d.erase "_id") = .valid v) :
    (get o vacancyId owner).run w = (.ok v, w) := by
  have hcall := run_call_read (w := w) (operation "get_vacancy" vacancyId)
    (q := .findOne .vacancies (Filter.scoped [("vacancy_id", vacancyId)] owner)) rfl
    (by rw [hw]; rfl)
  have hanswer : (w.store.answer (.findOne .vacancies
      (Filter.scoped [("vacancy_id", vacancyId)] owner))).1 = some d := hd
  have hid := List.find?_some hd
  rw [Document.fits_scoped, Bool.and_eq_true, Document.fits_singleton] at hid
  rw [hanswer] at hcall
  refine (run_bind_ok hcall).trans ?_
  rw [ofFound_of_holds hid.1 hv]
  rfl

end Vacancies

namespace Resumes

theorem run_get_of_null (hw : w.pendingFaults = [])
    (hnull : ∀ d, w.store.resumes.find?
      (Document.fits (Filter.scoped [("resume_id", resumeId)] owner)) = some d →
        fieldOf d "parsed_text" = .null) :
    (get resumeId owner).run w = (.error (.failure (noText resumeId)), w) := by
  have hcall := run_call_read (w := w) (operation "get_resume" resumeId .resumes)
    (q := .findOne .resumes (Filter.scoped [("resume_id", resumeId)] owner)) rfl
    (by rw [hw]; rfl)
  refine (run_bind_ok hcall).trans ?_
  have hanswer : (w.store.answer (.findOne .resumes
      (Filter.scoped [("resume_id", resumeId)] owner))).1 = w.store.resumes.find?
        (Document.fits (Filter.scoped [("resume_id", resumeId)] owner)) := rfl
  rw [hanswer]
  split
  · rfl
  · next d hd =>
    rw [hnull d hd]
    rfl

theorem run_get_of_some {r : Resume} (hw : w.pendingFaults = [])
    (hd : w.store.resumes.find?
      (Document.fits (Filter.scoped [("resume_id", resumeId)] owner)) = some d)
    (htext : fieldOf d "parsed_text" ≠ .null) (hr : readText resumeId d = .valid r) :
    (get resumeId owner).run w = (.ok r, w) := by
  have hcall := run_call_read (w := w) (operation "get_resume" resumeId .resumes)
    (q := .findOne .resumes (Filter.scoped [("resume_id", resumeId)] owner)) rfl
    (by rw [hw]; rfl)
  have hanswer : (w.store.answer (.findOne .resumes
      (Filter.scoped [("resume_id", resumeId)] owner))).1 = some d := hd
  rw [hanswer] at hcall
  refine (run_bind_ok hcall).trans ?_
  dsimp only
  split
  · next hnull => exact absurd hnull htext
  · change (ofValidation (readText resumeId d)).run w = _
    rw [hr]
    rfl

theorem run_findRecord_of_none (hw : w.pendingFaults = [])
    (hnone : w.store.profiles.find? (Document.fits [("resume_id", resumeId)]) = none) :
    (findRecord o resumeId).run w = (.ok none, w) := by
  have hcall := run_call_read (w := w) (operation "get_profile" resumeId .profiles)
    (q := .findOne .profiles [("resume_id", resumeId)]) rfl (by rw [hw]; rfl)
  have hanswer : (w.store.answer (.findOne .profiles [("resume_id", resumeId)])).1 = none := hnone
  rw [hanswer] at hcall
  exact run_bind_ok hcall

theorem run_findRecord_of_some {r : ProfileRecord} (hw : w.pendingFaults = [])
    (hd : w.store.profiles.find? (Document.fits [("resume_id", resumeId)]) = some d)
    (hr : ProfileRecord.ofFields o.now (d.erase "_id") = .valid r) :
    (findRecord o resumeId).run w = (.ok (some r), w) := by
  have hcall := run_call_read (w := w) (operation "get_profile" resumeId .profiles)
    (q := .findOne .profiles [("resume_id", resumeId)]) rfl (by rw [hw]; rfl)
  have hanswer : (w.store.answer (.findOne .profiles [("resume_id", resumeId)])).1 = some d := hd
  have hid := List.find?_some hd
  rw [Document.fits_singleton] at hid
  rw [hanswer] at hcall
  refine (run_bind_ok hcall).trans ?_
  rw [Option.bind_some, Document.stored?_of_holds hid]
  dsimp only
  rw [Document.isEmpty_erase_of_holds hid (by decide), if_neg Bool.false_ne_true, hr]
  rfl

end Resumes

/-! ## What decides about a request -/

def Vacancies.Visible (s : Store) (actor : Actor) (vacancyId : String) : Prop :=
  ∃ d ∈ s.vacancies, d.fits (Filter.scoped [("vacancy_id", vacancyId)] actor.scope) = true

/-- The first resume with the id that the actor sees has a text. -/
def Resumes.Parsed (s : Store) (actor : Actor) (resumeId : String) : Prop :=
  ∃ d, s.resumes.find? (Document.fits (Filter.scoped [("resume_id", resumeId)] actor.scope)) =
    some d ∧ fieldOf d "parsed_text" ≠ .null

namespace Analyses

/-- What the lookups of a request find can be read. No more is looked up than the earlier refusals
leave to be. -/
structure Readable (o : Occasion) (actor : Actor) (resumeId vacancyId : String) (s : Store) :
    Prop where
  vacancy : ∀ d, s.vacancies.find?
      (Document.fits (Filter.scoped [("vacancy_id", vacancyId)] actor.scope)) = some d →
    ∃ v, Vacancy.ofFields o (d.erase "_id") = .valid v
  resume : Vacancies.Visible s actor vacancyId → ∀ d, s.resumes.find?
      (Document.fits (Filter.scoped [("resume_id", resumeId)] actor.scope)) = some d →
    Resumes.fieldOf d "parsed_text" ≠ .null → ∃ r, Resumes.readText resumeId d = .valid r
  record : Vacancies.Visible s actor vacancyId → Resumes.Parsed s actor resumeId →
    ∀ d, s.profiles.find? (Document.fits [("resume_id", resumeId)]) = some d →
      ∃ r, ProfileRecord.ofFields o.now (d.erase "_id") = .valid r

/-- How a request gets at a record, and the world after that: it reads the one that is stored, or it
builds one if there is none. -/
inductive Resolves (assistant : Option Assistant) (o : Occasion) (actor : Actor)
    (resumeId : String) (w : World) : Except Fault ProfileRecord → World → Prop where
  | stored {d : Document} {record : ProfileRecord}
      (hd : w.store.profiles.find? (Document.fits [("resume_id", resumeId)]) = some d)
      (hread : ProfileRecord.ofFields o.now (d.erase "_id") = .valid record) :
      Resolves assistant o actor resumeId w (.ok record) w
  | built {d : Document} {resume : Resume}
      (hnone : w.store.profiles.find? (Document.fits [("resume_id", resumeId)]) = none)
      (hd : w.store.resumes.find?
        (Document.fits (Filter.scoped [("resume_id", resumeId)] actor.scope)) = some d)
      (hread : Resumes.readText resumeId d = .valid resume) :
      Resolves assistant o actor resumeId w
        ((Profiles.buildAndSave assistant o resumeId resume.text).run w).1
        ((Profiles.buildAndSave assistant o resumeId resume.text).run w).2

/-- How a request in a world ends. Each refusal has its condition, in this order. -/
structure Decided (assistant : Option Assistant) (o : Occasion) (actor : Actor)
    (resumeId vacancyId : String) (w : World) (ending : Except Fault Analysis × World) : Prop where
  unknown : ending.1 = .error (.failure (Vacancies.unknown vacancyId)) ↔
    ¬ Vacancies.Visible w.store actor vacancyId
  noText : Vacancies.Visible w.store actor vacancyId →
    (ending.1 = .error (.failure (Resumes.noText resumeId)) ↔
      ¬ Resumes.Parsed w.store actor resumeId)
  /-- In both cases nothing was asked or written. -/
  untouched : ¬ (Vacancies.Visible w.store actor vacancyId ∧
    Resumes.Parsed w.store actor resumeId) → ending.2 = w
  resolved : Vacancies.Visible w.store actor vacancyId → Resumes.Parsed w.store actor resumeId →
    ∃ record w', Resolves assistant o actor resumeId w (.ok record) w'
  notReady : Vacancies.Visible w.store actor vacancyId → Resumes.Parsed w.store actor resumeId →
    ∀ record w', Resolves assistant o actor resumeId w (.ok record) w' →
      (ending.1 = .error
        (.failure (.profileNotReady resumeId record.status.name record.errorMessage)) ↔
          record.status ≠ .ok)
  /-- A refusal changes no more than getting the record did, which is nothing if it was stored. -/
  unchanged : Vacancies.Visible w.store actor vacancyId → Resumes.Parsed w.store actor resumeId →
    ∀ record w', Resolves assistant o actor resumeId w (.ok record) w' → record.status ≠ .ok →
      ending.2 = w'
  made : Vacancies.Visible w.store actor vacancyId → Resumes.Parsed w.store actor resumeId →
    ∀ record w', Resolves assistant o actor resumeId w (.ok record) w' →
      ((∃ a, ending.1 = .ok a) ↔ record.status = .ok)

theorem details_profileNotReady (resumeId status reason : String) :
    (Failure.profileNotReady resumeId status reason).details =
      .record ([("resume_id", .text resumeId), ("status", .text status)] ++
        if reason.isEmpty then [] else [("reason", .text reason)]) := by
  cases h : reason.isEmpty <;>
    simp [Failure.profileNotReady, Failure.make, Failure.detailsOf, Failure.detailRules,
      Failure.DetailRule.apply, Fields.get?, Value.isFalsy, h]

theorem unknown_ne_noText (vacancyId resumeId : String) :
    Vacancies.unknown vacancyId ≠ Resumes.noText resumeId := by
  intro h
  have hd := congrArg Failure.details h
  simp [Vacancies.unknown, Resumes.noText, Failure.notFound, Failure.make, Failure.detailsOf,
    Failure.detailRules, Failure.DetailRule.apply, Fields.get?, Value.isFalsy] at hd

theorem profileNotReady_ne {f : Failure} (hf : f.kind = .notFound) (status reason : String) :
    Failure.profileNotReady resumeId status reason ≠ f := by
  rintro rfl
  cases hf

section Runs

variable {v : Vacancy} {resume : Resume} {record : ProfileRecord}
  {outcome : Except Fault ProfileRecord}

theorem run_create_of_not_visible (assistant : Option Assistant) (hw : w.pendingFaults = [])
    (h : ¬ Vacancies.Visible w.store actor vacancyId) :
    (create assistant o actor resumeId vacancyId).run w =
      (.error (.failure (Vacancies.unknown vacancyId)), w) := by
  refine run_bind_error (Vacancies.run_get_of_none hw (List.find?_eq_none.mpr fun d hd hfit => ?_))
  exact h ⟨d, hd, hfit⟩

theorem run_create_of_not_parsed (assistant : Option Assistant) (hw : w.pendingFaults = [])
    (hv : (Vacancies.get o vacancyId actor.scope).run w = (.ok v, w))
    (h : ¬ Resumes.Parsed w.store actor resumeId) :
    (create assistant o actor resumeId vacancyId).run w =
      (.error (.failure (Resumes.noText resumeId)), w) := by
  refine (run_bind_ok hv).trans (run_bind_error (Resumes.run_get_of_null hw fun d hd => ?_))
  by_contra htext
  exact h ⟨d, hd, htext⟩

theorem run_create_of_not_ready (assistant : Option Assistant)
    (hv : (Vacancies.get o vacancyId actor.scope).run w = (.ok v, w))
    (hr : (Resumes.get resumeId actor.scope).run w = (.ok resume, w))
    (hrec : (resolveRecord assistant o resume).run w = (.ok record, w'))
    (hne : record.status ≠ .ok) :
    (create assistant o actor resumeId vacancyId).run w =
      (.error (.failure (.profileNotReady resumeId record.status.name record.errorMessage)),
        w') := by
  refine (run_bind_ok hv).trans ((run_bind_ok hr).trans ((run_bind_ok hrec).trans ?_))
  rw [if_pos hne]
  rfl

theorem Readable.run_getVacancy (h : Readable o actor resumeId vacancyId w.store)
    (hw : w.pendingFaults = []) (hv : Vacancies.Visible w.store actor vacancyId) :
    ∃ v, (Vacancies.get o vacancyId actor.scope).run w = (.ok v, w) := by
  obtain ⟨d, hmem, hfit⟩ := hv
  cases hd : w.store.vacancies.find?
      (Document.fits (Filter.scoped [("vacancy_id", vacancyId)] actor.scope)) with
  | none => exact absurd hfit (List.find?_eq_none.mp hd d hmem)
  | some d' =>
    obtain ⟨v, hv⟩ := h.vacancy d' hd
    exact ⟨v, Vacancies.run_get_of_some hw hd hv⟩

theorem Resolves.run_resolveRecord (h : Resolves assistant o actor resumeId w outcome w')
    (hw : w.pendingFaults = []) (hd : w.store.resumes.find?
      (Document.fits (Filter.scoped [("resume_id", resumeId)] actor.scope)) = some d)
    (hr : Resumes.readText resumeId d = .valid resume) :
    (resolveRecord assistant o resume).run w = (outcome, w') := by
  have hid := Resumes.resumeId_of_readText hr
  rw [resolveRecord, hid]
  cases h with
  | stored hrecord hread => exact run_bind_ok (Resumes.run_findRecord_of_some hw hrecord hread)
  | @built d' resume' hnone hd' hr' =>
    obtain rfl : d = d' := Option.some.inj (hd.symm.trans hd')
    obtain rfl : resume = resume' := Validation.valid.inj (hr.symm.trans hr')
    exact run_bind_ok (Resumes.run_findRecord_of_none hw hnone)

theorem Readable.exists_resolves (h : Readable o actor resumeId vacancyId w.store)
    (assistant : Option Assistant) (hvisible : Vacancies.Visible w.store actor vacancyId)
    (hd : w.store.resumes.find?
      (Document.fits (Filter.scoped [("resume_id", resumeId)] actor.scope)) = some d)
    (htext : Resumes.fieldOf d "parsed_text" ≠ .null)
    (hr : Resumes.readText resumeId d = .valid resume) :
    ∃ outcome w', Resolves assistant o actor resumeId w outcome w' := by
  cases hrecord : w.store.profiles.find? (Document.fits [("resume_id", resumeId)]) with
  | none => exact ⟨_, _, .built hrecord hd hr⟩
  | some d' =>
    obtain ⟨record, hread⟩ := h.record hvisible ⟨d, hd, htext⟩ d' hrecord
    exact ⟨_, _, .stored hrecord hread⟩

theorem Resolves.serves (h : Resolves assistant o actor resumeId w outcome w')
    (hw : w.Serves w.store) : w'.Serves w'.store := by
  cases h with
  | stored => exact hw
  | built => exact hw.run _

theorem decided_of_not_visible (assistant : Option Assistant) (hw : w.pendingFaults = [])
    (h : ¬ Vacancies.Visible w.store actor vacancyId) :
    Decided assistant o actor resumeId vacancyId w
      ((create assistant o actor resumeId vacancyId).run w) := by
  rw [run_create_of_not_visible assistant hw h]
  exact
    { unknown := ⟨fun _ => h, fun _ => rfl⟩
      noText := fun hv => absurd hv h
      untouched := fun _ => rfl
      resolved := fun hv => absurd hv h
      notReady := fun hv => absurd hv h
      unchanged := fun hv => absurd hv h
      made := fun hv => absurd hv h }

theorem decided_of_not_parsed (assistant : Option Assistant) (hw : w.pendingFaults = [])
    (hvisible : Vacancies.Visible w.store actor vacancyId)
    (hv : (Vacancies.get o vacancyId actor.scope).run w = (.ok v, w))
    (h : ¬ Resumes.Parsed w.store actor resumeId) :
    Decided assistant o actor resumeId vacancyId w
      ((create assistant o actor resumeId vacancyId).run w) := by
  rw [run_create_of_not_parsed assistant hw hv h]
  have hne : Resumes.noText resumeId ≠ Vacancies.unknown vacancyId :=
    (unknown_ne_noText vacancyId resumeId).symm
  exact
    { unknown := ⟨fun he => absurd (Fault.failure.inj (Except.error.inj he)) hne,
        fun hn => absurd hvisible hn⟩
      noText := fun _ => ⟨fun _ => h, fun _ => rfl⟩
      untouched := fun _ => rfl
      resolved := fun _ hp => absurd hp h
      notReady := fun _ hp => absurd hp h
      unchanged := fun _ hp => absurd hp h
      made := fun _ hp => absurd hp h }

/-- Whichever way the record is got at, the request goes on with it. -/
theorem Resolves.run_create (hres : Resolves assistant o actor resumeId w (.ok record) w')
    (hw : w.Serves w.store) (hv : (Vacancies.get o vacancyId actor.scope).run w = (.ok v, w))
    (hd : w.store.resumes.find?
      (Document.fits (Filter.scoped [("resume_id", resumeId)] actor.scope)) = some d)
    (htext : Resumes.fieldOf d "parsed_text" ≠ .null)
    (hread : Resumes.readText resumeId d = .valid resume) :
    (record.status ≠ .ok → (create assistant o actor resumeId vacancyId).run w =
      (.error (.failure (.profileNotReady resumeId record.status.name record.errorMessage)),
        w')) ∧
    (record.status = .ok →
      ∃ a, ((create assistant o actor resumeId vacancyId).run w).1 = .ok a) := by
  have hr := Resumes.run_get_of_some hw.calm hd htext hread
  have hrec := hres.run_resolveRecord hw.calm hd hread
  refine ⟨run_create_of_not_ready assistant hv hr hrec, fun hok => ?_⟩
  obtain ⟨a, w'', hrun, -⟩ := run_create_of_resolved assistant hv hr hrec hok (hres.serves hw)
  exact ⟨a, congrArg Prod.fst hrun⟩

theorem Resolves.decided (hres : Resolves assistant o actor resumeId w (.ok record) w')
    (hw : w.Serves w.store) (hvisible : Vacancies.Visible w.store actor vacancyId)
    (hv : (Vacancies.get o vacancyId actor.scope).run w = (.ok v, w))
    (hd : w.store.resumes.find?
      (Document.fits (Filter.scoped [("resume_id", resumeId)] actor.scope)) = some d)
    (htext : Resumes.fieldOf d "parsed_text" ≠ .null)
    (hread : Resumes.readText resumeId d = .valid resume) :
    Decided assistant o actor resumeId vacancyId w
      ((create assistant o actor resumeId vacancyId).run w) := by
  have hparsed : Resumes.Parsed w.store actor resumeId := ⟨d, hd, htext⟩
  -- Neither lookup is to blame, however the request ends.
  have hfound : ∀ f : Failure, f.kind = .notFound →
      ((create assistant o actor resumeId vacancyId).run w).1 ≠ .error (.failure f) := by
    intro f hf he
    obtain ⟨hrefused, hmade⟩ := hres.run_create hw hv hd htext hread
    by_cases hok : record.status = .ok
    · obtain ⟨a, ha⟩ := hmade hok
      rw [ha] at he
      cases he
    · rw [hrefused hok] at he
      exact profileNotReady_ne hf _ _ (Fault.failure.inj (Except.error.inj he))
  constructor
  · exact ⟨fun he => absurd he (hfound _ rfl), fun hn => absurd hvisible hn⟩
  · exact fun _ => ⟨fun he => absurd he (hfound _ rfl), fun hn => absurd hparsed hn⟩
  · exact fun hn => absurd ⟨hvisible, hparsed⟩ hn
  · exact fun _ _ => ⟨record, w', hres⟩
  · intro _ _ record' w'' hres'
    obtain ⟨hrefused, hmade⟩ := hres'.run_create hw hv hd htext hread
    refine ⟨fun he hok => ?_, fun hne => congrArg Prod.fst (hrefused hne)⟩
    obtain ⟨a, ha⟩ := hmade hok
    rw [ha] at he
    cases he
  · intro _ _ record' w'' hres' hne
    rw [(hres'.run_create hw hv hd htext hread).1 hne]
  · intro _ _ record' w'' hres'
    obtain ⟨hrefused, hmade⟩ := hres'.run_create hw hv hd htext hread
    refine ⟨fun ⟨a, ha⟩ => ?_, hmade⟩
    by_contra hne
    rw [hrefused hne] at ha
    cases ha

end Runs

/-- A request for an analysis is refused because the vacancy is unknown, because the resume has no
text, or because its profile is not ready, each exactly where it is so and none of the former holds;
otherwise there is an analysis. -/
theorem create_decided (hw : w.Serves w.store) (h : Readable o actor resumeId vacancyId w.store)
    (hbuild : Vacancies.Visible w.store actor vacancyId → Resumes.Parsed w.store actor resumeId →
      ∀ fault w', ¬ Resolves assistant o actor resumeId w (.error fault) w') :
    Decided assistant o actor resumeId vacancyId w
      ((create assistant o actor resumeId vacancyId).run w) := by
  by_cases hvisible : Vacancies.Visible w.store actor vacancyId
  swap
  · exact decided_of_not_visible assistant hw.calm hvisible
  obtain ⟨v, hv⟩ := h.run_getVacancy hw.calm hvisible
  by_cases hparsed : Resumes.Parsed w.store actor resumeId
  swap
  · exact decided_of_not_parsed assistant hw.calm hvisible hv hparsed
  obtain ⟨d, hd, htext⟩ := hparsed
  obtain ⟨resume, hread⟩ := h.resume hvisible d hd htext
  obtain ⟨outcome, w', hres⟩ := h.exists_resolves assistant hvisible hd htext hread
  cases outcome with
  | error fault => exact absurd hres (hbuild hvisible ⟨d, hd, htext⟩ fault w')
  | ok record => exact hres.decided hw hvisible hv hd htext hread

/-- The desk before any record was built. -/
def undescribed : World := .quiet { desk with profiles := [] }

/-- Without a service the record that gets built is a failed one, and the request is refused. -/
theorem create_decided_undescribed : ∃ record w',
    Resolves none noon recruiter "r1" undescribed (.ok record) w' ∧ record.status = .failed ∧
    ((create none noon recruiter "r1" "v1").run undescribed).1 =
      .error (.failure (.profileNotReady "r1" "failed" Profiles.notConfigured)) := by
  have hw : undescribed.Serves undescribed.store :=
    ⟨rfl, rfl, by simp [undescribed, World.quiet]⟩
  have hvisible : Vacancies.Visible undescribed.store recruiter "v1" :=
    ⟨_, List.mem_cons_self, rfl⟩
  have hparsed : Resumes.Parsed undescribed.store recruiter "r1" := by
    refine ⟨_, rfl, ?_⟩
    intro hnull
    cases hnull
  have hreadable : Readable noon recruiter "r1" "v1" undescribed.store := by
    constructor
    · intro d hd
      obtain rfl := Option.some.inj hd
      exact ⟨_, rfl⟩
    · intro _ d hd _
      obtain rfl := Option.some.inj hd
      exact ⟨_, rfl⟩
    · intro _ _ d hd
      cases hd
  have hbuilt : Resolves none noon recruiter "r1" undescribed _ _ := .built rfl rfl rfl
  have hbuild : ∀ fault w', ¬ Resolves none noon recruiter "r1" undescribed (.error fault) w' := by
    intro fault w' hres
    have hrun := hres.run_resolveRecord rfl rfl rfl
    cases (hbuilt.run_resolveRecord rfl rfl rfl).symm.trans hrun
  have hdecided : Decided none noon recruiter "r1" "v1" undescribed _ :=
    create_decided hw hreadable fun _ _ => hbuild
  refine ⟨_, _, hbuilt, rfl, (hdecided.notReady hvisible hparsed _ _ hbuilt).mpr ?_⟩
  intro hok
  cases hok

/-- A vacancy whose title is a number, and no resume. -/
def defaced : Store where
  vacancies :=
    [[("vacancy_id", .text "v1"), ("owner_id", .text "alice"), ("title", .int 5)]]
  resumes := []
  profiles := []
  analyses := []

/-- Two resumes with one id, of which only the second has a text. -/
def doubled : Store :=
  { desk with
    resumes := [("resume_id", .text "r1"), ("owner_id", .text "alice")] :: desk.resumes }

/-- What cannot be read is reported as such before anything is missed, and a second resume with the
id does not count. -/
theorem create_misses_resume :
    (Vacancies.Visible defaced recruiter "v1" ∧ defaced.resumes = [] ∧
      ∃ vs, ((create none noon recruiter "r1" "v1").run (.quiet defaced)).1 =
        .error (.invalid vs)) ∧
    Vacancies.Visible doubled recruiter "v1" ∧
      (∃ d ∈ doubled.resumes,
        d.fits (Filter.scoped [("resume_id", "r1")] recruiter.scope) = true ∧
          Resumes.fieldOf d "parsed_text" ≠ .null) ∧
      ((create none noon recruiter "r1" "v1").run (.quiet doubled)).1 =
        .error (.failure (Resumes.noText "r1")) := by
  refine ⟨⟨⟨_, List.mem_cons_self, rfl⟩, rfl, _, rfl⟩, ⟨_, List.mem_cons_self, rfl⟩, ?_, rfl⟩
  exact ⟨_, List.mem_cons_of_mem _ List.mem_cons_self, rfl, nofun⟩

end Analyses

end Shortlist
