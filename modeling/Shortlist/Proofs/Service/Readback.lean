import Shortlist.Proofs.Analysis.Refusal
import Shortlist.Proofs.Service.Request
import Shortlist.Proofs.Validation.Again

/-! # Documents written whole

Profile records, vacancies and analyses are written as whole documents, and nothing else is. A
lookup that is given such a document, with or without the store's own id in it, gives back what was
written.
-/

namespace Shortlist

open Program

variable {assistant : Option Assistant} {o : Occasion} {actor : Actor}

/-! ## What lookups make of a document -/

/-- Given the document of the record, a lookup finds the record. -/
def Resumes.Recovers (r : ProfileRecord) : Prop :=
  ∀ (o : Occasion) (w : World) (d : Document), w.pendingFaults = [] →
    w.store.profiles.find? (Document.fits [("resume_id", r.resumeId)]) = some d →
      d.erase "_id" = r.toFields → (findRecord o r.resumeId).run w = (.ok (some r), w)

/-- Given the document of the vacancy, a lookup for any owner finds the vacancy. -/
def Vacancies.Recovers (v : Vacancy) : Prop :=
  ∀ (o : Occasion) (owner : Option String) (w : World) (d : Document), w.pendingFaults = [] →
    w.store.vacancies.find?
        (Document.fits (Filter.scoped [("vacancy_id", v.vacancyId)] owner)) = some d →
      d.erase "_id" = v.toFields → (get o v.vacancyId owner).run w = (.ok v, w)

def Analyses.Recovers (a : Analysis) : Prop :=
  ∀ (o : Occasion) (w : World) (d : Document), w.pendingFaults = [] →
    w.store.analyses.find? (Document.fits [("analysis_id", a.analysisId)]) = some d →
      d.erase "_id" = a.toFields → (find o a.analysisId).run w = (.ok (some a), w)

theorem Resumes.recovers {r : ProfileRecord} (h : r.profile.Settled) : Recovers r := by
  intro o w d hw hd he
  apply run_findRecord_of_some hw hd
  rw [he]
  exact r.ofFields_toFields o.now h

theorem Vacancies.recovers {v : Vacancy} (h : Weighted.collapse v.skills = v.skills) :
    Recovers v := by
  intro o owner w d hw hd he
  apply run_get_of_some hw hd
  rw [he, v.ofFields_toFields o, h]

theorem Analyses.run_find_of_some {analysisId : String} {w : World} {d : Document} {a : Analysis}
    (hw : w.pendingFaults = [])
    (hd : w.store.analyses.find? (Document.fits [("analysis_id", analysisId)]) = some d)
    (ha : Analysis.ofFields o (d.erase "_id") = .valid a) :
    (find o analysisId).run w = (.ok (some a), w) := by
  have hcall := run_call_read (w := w)
    (operation "get_analysis" [("analysis_id", .text analysisId)])
    (q := .findOne .analyses [("analysis_id", analysisId)]) rfl (by rw [hw]; rfl)
  have hanswer : (w.store.answer (.findOne .analyses [("analysis_id", analysisId)])).1 =
    some d := hd
  have hid := List.find?_some hd
  rw [Document.fits_singleton] at hid
  rw [hanswer] at hcall
  refine (run_bind_ok hcall).trans ?_
  rw [Option.bind_some, Document.stored?_of_holds hid]
  dsimp only
  rw [Document.isEmpty_erase_of_holds hid (by decide), if_neg Bool.false_ne_true, ha]
  rfl

theorem Analyses.recovers {a : Analysis} (h : Analysis.score? (.float a.score) = .valid a.score) :
    Recovers a := by
  intro o w d hw hd he
  apply run_find_of_some hw hd
  rw [he]
  exact Analysis.ofFields_toFields o h

/-! ## What services write -/

/-- What the call writes whole, if anything, can be recovered. -/
def StoreCall.Recoverable : StoreCall → Prop
  | .insert .vacancies d => ∃ v : Vacancy, d = v.toFields ∧ Vacancies.Recovers v
  | .insert .analyses d => ∃ a : Analysis, d = a.toFields ∧ Analyses.Recovers a
  | .replace .profiles f d => ∃ r : ProfileRecord, f = [("resume_id", r.resumeId)] ∧
    d = r.toFields ∧ Resumes.Recovers r
  | .insert .. | .replace .. => False
  | _ => True

theorem Reply.exists_of_decode {α : Type} {target : Target α} {reply : Option String} {a : α}
    (h : decode target reply = .ok a) : ∃ v, target.read v = .valid a := by
  have hslice {cs slice : List Char} (h : decodeSlice target cs slice = .ok a) :
      ∃ v, target.read v = .valid a := by
    simp only [decodeSlice] at h
    split at h
    · split at h <;> cases h
    · next v hv =>
      split at h
      · next b hb =>
        cases h
        exact ⟨v, hb⟩
      · cases h
  simp only [decode] at h
  split at h
  · next b hb =>
    cases h
    rw [decodeWhole?] at hb
    split at hb
    · next v hv =>
      split at hb
      · next c hc =>
        cases hb
        exact ⟨v, hc⟩
      · cases hb
    · cases hb
  · split at h
    · exact hslice h
    · cases h

theorem Profiles.Drawn.settled {p : Profile} (h : Drawn p) : p.Settled := by
  rcases h with rfl | ⟨reply, hreply⟩
  · exact Profile.settled_empty
  · obtain ⟨v, hv⟩ := Reply.exists_of_decode hreply
    exact Profile.ofValue_toValue hv

theorem Profiles.recoverable_buildAndSave (assistant : Option Assistant) (o : Occasion)
    (resumeId text : String) :
    (buildAndSave assistant o resumeId text).Calls StoreCall.Recoverable := by
  apply (isBuilding_buildAndSave assistant o resumeId text).mono
  rintro _ ⟨r, rfl, hp, rfl⟩
  exact ⟨r, rfl, rfl, Resumes.recovers hp.settled⟩

theorem Program.Looks.recoverable {α : Type} {p : Program α} (h : p.ReadOnly) :
    p.Calls StoreCall.Recoverable := by
  apply h.calls.mono
  intro q hq
  cases q with
  | findOne | findPage => trivial
  | _ => cases hq

theorem Analyses.recoverable_insert {a : Analysis} (p : Profile) (rs : List Requirement)
    (h : a.score = (p.fit rs).score) : StoreCall.Recoverable (.insert .analyses a.toFields) :=
  ⟨a, rfl, recovers (h ▸ p.score?_fit rs)⟩

theorem Analyses.recoverable_create (resumeId vacancyId : String) :
    (create assistant o actor resumeId vacancyId).Calls StoreCall.Recoverable := by
  refine (Vacancies.looks_get o vacancyId _ (by rfl)).recoverable.bind fun v => ?_
  refine (Resumes.looks_get resumeId _ (by rfl)).recoverable.bind fun resume => ?_
  have hresolve : (resolveRecord assistant o resume).Calls StoreCall.Recoverable := by
    refine (Resumes.looks_findRecord o _ (by rfl)).recoverable.bind fun found => ?_
    cases found with
    | some record => trivial
    | none => exact Profiles.recoverable_buildAndSave assistant o _ _
  refine hresolve.bind fun record => Calls.ite trivial (Calls.bind ?_ fun narrated => ?_)
  · exact (calls_enrich _ _ _).mono fun _ hq => hq.elim
  · refine Calls.bind (calls_call _ ?_) fun _ => trivial
    exact recoverable_insert record.profile v.skills rfl

theorem Request.recoverable_program (assistant : Option Assistant) (o : Occasion) (actor : Actor)
    (q : Request) : (q.program assistant o actor).Calls StoreCall.Recoverable := by
  cases q with
  | ingest resumeId upload =>
    refine (Resumes.looks_find resumeId (by rfl)).recoverable.bind fun existing => ?_
    refine Calls.ite trivial ?_
    cases upload.text with
    | error fault => trivial
    | ok text =>
      refine Calls.bind (p := Resumes.save _) (calls_call _ trivial) fun _ => ?_
      exact Profiles.recoverable_buildAndSave assistant o resumeId text
  | rebuildProfile resumeId =>
    refine (Resumes.looks_get resumeId _ (by rfl)).recoverable.bind fun resume => ?_
    exact Profiles.recoverable_buildAndSave assistant o resumeId resume.text
  | getProfile resumeId => exact (Profiles.readOnly_get o actor resumeId).recoverable
  | createVacancy title description skills =>
    rw [program, Vacancies.create]
    generalize Text.strip title = title
    refine Calls.ite trivial (Calls.bind (calls_call _ ?_) fun _ => trivial)
    exact ⟨_, rfl, Vacancies.recovers (Weighted.collapse_collapse skills)⟩
  | getVacancy vacancyId => exact (Vacancies.looks_get o vacancyId _ (by rfl)).recoverable
  | listVacancies limit offset =>
    exact (Vacancies.looks_list o _ limit offset (by rfl)).recoverable
  | updateSkills vacancyId skills =>
    exact Calls.bind (calls_call _ trivial) fun found =>
      (Vacancies.looks_ofFound o vacancyId found).calls
  | createAnalysis resumeId vacancyId => exact Analyses.recoverable_create resumeId vacancyId
  | getAnalysis analysisId => exact (Analyses.looks_getFor o actor analysisId (by rfl)).recoverable
  | listAnalyses limit offset => exact (Analyses.looks_list o _ limit offset (by rfl)).recoverable
  | listByVacancy vacancyId limit offset =>
    exact (Analyses.readOnly_listByVacancyFor o actor vacancyId limit offset).recoverable
  | vacancyReport vacancyId => exact (Analyses.readOnly_vacancyReport o actor vacancyId).recoverable
  | deleteAnalysis analysisId =>
    refine (Analyses.looks_getFor o actor analysisId (by rfl)).recoverable.bind fun _ => ?_
    refine Calls.bind (Calls.bind (calls_call _ trivial) fun _ => trivial) fun _ => trivial

/-- Every stored model is read just as it was from what it is written as, however loose the value
was that it first came from; the coercions change nothing of their own results. So lookups recover
all that requests write whole. -/
theorem stored_models_round_trip :
    (∀ (v : Value) (p : Profile), Profile.ofValue v = .valid p →
      Profile.ofValue p.toValue = .valid p) ∧
    (∀ (v : Value) (n : Narrative), Narrative.ofValue v = .valid n →
      Narrative.ofValue n.toValue = .valid n) ∧
    (∀ (now later : Moment) (v : Value) (r : ProfileRecord),
      ProfileRecord.ofValue now v = .valid r → ProfileRecord.ofValue later r.toValue = .valid r) ∧
    (∀ (o o' : Occasion) (v : Value) (x : Vacancy), Vacancy.ofValue o v = .valid x →
      Vacancy.ofValue o' x.toValue = .valid x) ∧
    (∀ (v : Value) (r : Report), Report.ofValue v = .valid r →
      Report.ofValue r.toValue = .valid r) ∧
    (∀ (o o' : Occasion) (v : Value) (a : Analysis), Analysis.ofValue o v = .valid a →
      Analysis.ofValue o' a.toValue = .valid a) ∧
    ((∀ v : Value, (Value.list v.asList).asList = v.asList) ∧
      (∀ v : Value, (Value.text v.asText).asText = v.asText) ∧
      (∀ s : String, Text.strip (Text.strip s) = Text.strip s) ∧
      ∀ rs : List Requirement, Weighted.collapse (Weighted.collapse rs) = Weighted.collapse rs) ∧
    ∀ (assistant : Option Assistant) (o : Occasion) (actor : Actor) (q : Request),
      (q.program assistant o actor).Calls StoreCall.Recoverable := by
  refine ⟨?_, ?_, ?_, ?_, ?_, ?_, ⟨?_, ?_, ?_, ?_⟩, ?_⟩
  · exact fun _ _ => Profile.ofValue_toValue
  · exact fun _ _ => Narrative.ofValue_toValue
  · exact fun _ _ _ _ => ProfileRecord.ofValue_toValue
  · exact fun _ _ _ _ => Vacancy.ofValue_toValue
  · exact fun _ r _ => r.ofValue_toValue
  · exact fun _ _ _ _ => Analysis.ofValue_toValue
  · exact fun _ => rfl
  · exact Value.trimmed_asText
  · exact Text.trimmed_strip
  · exact Weighted.collapse_collapse
  · exact Request.recoverable_program

def looseProfile : Value :=
  .record
    [("summary", .text " Gopher "), ("skills", .text "Go; SQL, ;"),
      ("experience", .text " two years of Go"), ("education", .null)]

theorem stored_models_round_trip_looseProfile :
    ∃ p : Profile, Profile.ofValue looseProfile = .valid p ∧ p.skills = ["Go", "SQL"] ∧
      p.experience.map Experience.description = ["two years of Go"] ∧
      Profile.ofValue p.toValue = .valid p :=
  ⟨_, rfl, by decide, by decide, stored_models_round_trip.1 looseProfile _ rfl⟩

end Shortlist
