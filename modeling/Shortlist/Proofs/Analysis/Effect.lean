import Shortlist.Proofs.Analysis.Enrichment
import Shortlist.Proofs.Service.Request

/-! # What making an analysis changes

Whatever fails while an analysis is made, and whatever the text-generation service says, there is
one more analysis if it succeeds and none otherwise. Vacancies and resumes stay as they are. So do
profile records, except that one may be added for a resume that had none.
-/

namespace Shortlist

open Program

/-- The store gets at most one more record, that of a resume that had none. -/
inductive Profiles.Adds (resumeId : String) (s : Store) : Store → Prop where
  | nothing : Adds resumeId s s
  | record {r : ProfileRecord} (hid : r.resumeId = resumeId)
      (hnone : ∀ d ∈ s.profiles, d.fits [("resume_id", resumeId)] = false) :
      Adds resumeId s { s with profiles := s.profiles ++ [r.toFields] }

variable {assistant : Option Assistant} {o : Occasion} {actor : Actor} {s s' : Store}
  {resumeId vacancyId : String}

namespace Profiles

theorem Adds.recording (h : Adds resumeId s s') {q : StoreCall} (hq : IsRecording resumeId q)
    (hnone : ∀ d ∈ s.profiles, d.fits [("resume_id", resumeId)] = false) :
    Adds resumeId s (s'.answer q).2 := by
  obtain ⟨r, hid, rfl⟩ := hq
  have hadded : Adds resumeId s { s with profiles := s.profiles ++ [r.toFields] } :=
    .record hid hnone
  cases h with
  | nothing =>
    rwa [s.answer_replace_append .profiles _ r.toFields (List.append_nil _).symm hnone (.inl rfl)]
  | @record old hold _ =>
    have hfits : Document.fits [("resume_id", resumeId)] old.toFields = true := by
      rw [Document.fits_singleton, ← hold]
      exact Document.holds_iff.mpr rfl
    rwa [Store.answer_replace_append _ .profiles _ r.toFields rfl hnone (.inr ⟨_, hfits, rfl⟩)]

theorem adds_of_yields_buildAndSave {text : String} {r : Except Fault ProfileRecord}
    (hnone : ∀ d ∈ s.profiles, d.fits [("resume_id", resumeId)] = false)
    (h : (buildAndSave assistant o resumeId text).Yields s r s') : Adds resumeId s s' := by
  refine (calls_buildAndSave assistant o resumeId text).invariant ?_ h .nothing
  exact fun q t hq ht => ht.recording hq hnone

end Profiles

namespace Resumes

theorem forall_of_yields_findRecord_none
    (h : (findRecord o resumeId).Yields s (.ok none) s') :
    ∀ d ∈ s.profiles, d.fits [("resume_id", resumeId)] = false := by
  obtain ⟨found, s₁, hcall, hread⟩ := yields_bind_ok_iff.mp h
  obtain ⟨rfl, rfl⟩ := yields_call_ok_iff.mp hcall
  cases hfound : s₁.profiles.find? (Document.fits [("resume_id", resumeId)]) with
  | none => simpa using hfound
  | some d =>
    have hanswer : (s₁.answer (.findOne .profiles [("resume_id", resumeId)])).1 = some d := hfound
    have hid := List.find?_some hfound
    rw [Document.fits_singleton] at hid
    rw [hanswer, Option.bind_some, Document.stored?_of_holds hid] at hread
    dsimp only at hread
    rw [Document.isEmpty_erase_of_holds hid (by decide), if_neg Bool.false_ne_true] at hread
    obtain ⟨_, -, hne⟩ := yields_map_ok_iff.mp hread
    cases hne

end Resumes

namespace Analyses

theorem adds_of_yields_resolveRecord {resume : Resume} {r : Except Fault ProfileRecord}
    (h : (resolveRecord assistant o resume).Yields s r s') :
    Profiles.Adds resume.resumeId s s' := by
  obtain ⟨found, s₁, hfind, hrest⟩ | ⟨fault, hfind, -⟩ := yields_bind_iff.mp h
  · obtain rfl := (Resumes.looks_findRecord o resume.resumeId (by rfl)).eq_of_yields hfind
    cases found with
    | some record =>
      rw [(yields_done_iff.mp hrest).2]
      exact .nothing
    | none =>
      have hnone := Resumes.forall_of_yields_findRecord_none hfind
      exact Profiles.adds_of_yields_buildAndSave hnone hrest
  · rw [(Resumes.looks_findRecord o resume.resumeId (by rfl)).eq_of_yields hfind]
    exact .nothing

/-- The store after a request for an analysis: with the analysis if there is one. -/
def filed (s : Store) : Except Fault Analysis → Store
  | .ok a => { s with analyses := s.analyses ++ [a.toFields] }
  | .error _ => s

theorem exists_adds_of_yields_create {r : Except Fault Analysis}
    (h : (create assistant o actor resumeId vacancyId).Yields s r s') :
    ∃ t, Profiles.Adds resumeId s t ∧ s' = filed t r := by
  obtain ⟨v, s₁, hv, h₁⟩ | ⟨fault, hv, rfl⟩ := yields_bind_iff.mp h
  swap
  · exact ⟨s, .nothing, (Vacancies.looks_get o vacancyId _ (by rfl)).eq_of_yields hv⟩
  obtain rfl := (Vacancies.looks_get o vacancyId _ (by rfl)).eq_of_yields hv
  obtain ⟨resume, s₂, hr, h₂⟩ | ⟨fault, hr, rfl⟩ := yields_bind_iff.mp h₁
  swap
  · exact ⟨s₁, .nothing, (Resumes.looks_get resumeId _ (by rfl)).eq_of_yields hr⟩
  obtain ⟨rfl, d, -, hread⟩ := Resumes.of_yields_get hr
  obtain rfl := Resumes.resumeId_of_readText hread
  obtain ⟨record, t, hrec, h₃⟩ | ⟨fault, hrec, rfl⟩ := yields_bind_iff.mp h₂
  swap
  · exact ⟨s', adds_of_yields_resolveRecord hrec, rfl⟩
  refine ⟨t, adds_of_yields_resolveRecord hrec, ?_⟩
  split at h₃
  · obtain ⟨rfl, rfl⟩ := yields_done_iff.mp h₃
    rfl
  obtain ⟨⟨report, model⟩, s₄, he, h₄⟩ | ⟨fault, he, rfl⟩ := yields_bind_iff.mp h₃
  swap
  · exact eq_of_yields_enrich he
  obtain rfl := eq_of_yields_enrich he
  obtain ⟨_, s₅, hi, hp⟩ | ⟨fault, hi, rfl⟩ := yields_bind_iff.mp h₄
  · obtain ⟨rfl, rfl⟩ := yields_done_iff.mp hp
    obtain ⟨-, rfl⟩ := yields_call_ok_iff.mp hi
    rfl
  · exact eq_of_yields_call_error hi

/-- A request for an analysis adds the analysis that it gives, or none if it fails, and at most a
record of the resume where there was none. A record that is there is left alone. -/
theorem create_adds_analysis_only {r : Except Fault Analysis}
    (h : (create assistant o actor resumeId vacancyId).Yields s r s') :
    (∀ fault, r = .error fault → s'.analyses = s.analyses) ∧
      (∀ a, r = .ok a → s'.analyses = s.analyses ++ [a.toFields]) ∧
      s'.vacancies = s.vacancies ∧ s'.resumes = s.resumes ∧
      (s'.profiles = s.profiles ∨
        (∀ d ∈ s.profiles, d.holds "resume_id" resumeId = false) ∧
          ∃ record : ProfileRecord, record.resumeId = resumeId ∧
            s'.profiles = s.profiles ++ [record.toFields]) := by
  obtain ⟨t, hadds, rfl⟩ := exists_adds_of_yields_create h
  have hrest : t.analyses = s.analyses ∧ t.vacancies = s.vacancies ∧ t.resumes = s.resumes := by
    cases hadds <;> exact ⟨rfl, rfl, rfl⟩
  have hprofiles : (filed t r).profiles = t.profiles := by cases r <;> rfl
  have hvacancies : (filed t r).vacancies = t.vacancies := by cases r <;> rfl
  have hresumes : (filed t r).resumes = t.resumes := by cases r <;> rfl
  refine ⟨?_, ?_, hvacancies.trans hrest.2.1, hresumes.trans hrest.2.2, ?_⟩
  · rintro fault rfl
    exact hrest.1
  · rintro a rfl
    exact congrArg (· ++ [a.toFields]) hrest.1
  · rw [hprofiles]
    cases hadds with
    | nothing => exact .inl rfl
    | @record record hid hnone =>
      refine .inr ⟨fun d hd => ?_, record, hid, rfl⟩
      rw [← Document.fits_singleton]
      exact hnone d hd

/-- The desk without a record, and a service that always describes the same candidate. -/
def unread : World :=
  { World.quiet { desk with profiles := [] } with
    replies := [.ok (some "\x7b\"summary\": \"Gopher\", \"skills\": [\"Go\"]\x7d")] }

/-- What a request for an analysis comes to there. -/
def firstReading : Except Fault Analysis × World :=
  (create (some ⟨"m"⟩) noon recruiter "r1" "v1").run unread

/-- The record gets built first, and there is one analysis. -/
theorem create_adds_analysis_only_unread : ∃ a, firstReading.1 = .ok a ∧
    firstReading.2.store.analyses = [a.toFields] ∧
    firstReading.2.store.resumes = desk.resumes ∧ ∃ record : ProfileRecord,
      record.resumeId = "r1" ∧ firstReading.2.store.profiles = [record.toFields] := by
  have hy : (create (some ⟨"m"⟩) noon recruiter "r1" "v1").Yields unread.store firstReading.1
      firstReading.2.store := by
    unfold firstReading
    exact yields_run _ unread
  have hok : firstReading.1.isOk = true := by decide +kernel
  have hbuilt : firstReading.2.store.profiles.length = 1 := by decide +kernel
  cases hr : firstReading.1 with
  | error fault =>
    rw [hr] at hok
    cases hok
  | ok a =>
    obtain ⟨-, hadded, -, hresumes, hprofiles⟩ := create_adds_analysis_only hy
    refine ⟨a, rfl, hadded a hr, hresumes, ?_⟩
    rcases hprofiles with hsame | ⟨-, record, hid, hone⟩
    · rw [hsame] at hbuilt
      cases hbuilt
    · exact ⟨record, hid, hone⟩

end Analyses

end Shortlist
