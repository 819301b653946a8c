import Shortlist.Analysis.Access
import Shortlist.Candidate.Access
import Shortlist.Proofs.Program.Behaviour
import Shortlist.Proofs.Store.Document
import Shortlist.Proofs.Validation.Valid
import Shortlist.Vacancy.Access

/-! # Lookups

The lookups of resumes, profile records, vacancies and analyses do nothing but read the store. A
resume or a vacancy is found where the store has a document for the filter that can be read.
-/

namespace Shortlist

open Program Validation

variable {ok : StoreCall → Prop}

theorem looks_ofValidation {α : Type} (v : Validation α) : (ofValidation v).Looks ok := trivial

theorem looks_readAll {α : Type} (read : Fields → Validation α) (ds : List Document) :
    (readAll read ds).Looks ok := by
  induction ds with
  | nil => trivial
  | cons d ds ih =>
    rw [readAll]
    split
    · trivial
    · exact (looks_ofValidation _).bind fun a => ih.bind fun rest => trivial

namespace Resumes

theorem looks_find (resumeId : String)
    (h : ok (.findOne .resumes [("resume_id", resumeId)])) : (find resumeId).Looks ok := by
  refine (looks_call _ h).bind fun found => ?_
  split
  · trivial
  · split
    · trivial
    · exact (looks_ofValidation _).bind fun _ => trivial

theorem looks_get (resumeId : String) (owner : Option String)
    (h : ok (.findOne .resumes (Filter.scoped [("resume_id", resumeId)] owner))) :
    (get resumeId owner).Looks ok := by
  refine (looks_call _ h).bind fun found => ?_
  split
  · trivial
  · split <;> trivial

theorem once_find (resumeId : String) :
    (find resumeId).Once (.findOne .resumes [("resume_id", resumeId)]) := by
  refine once_call_bind fun found => ?_
  split
  · exact ⟨_, rfl⟩
  · split
    · exact ⟨_, rfl⟩
    · exact ⟨_, map_done _ _⟩

theorem once_get (resumeId : String) (owner : Option String) :
    (get resumeId owner).Once
      (.findOne .resumes (Filter.scoped [("resume_id", resumeId)] owner)) := by
  refine once_call_bind fun found => ?_
  split
  · exact ⟨_, rfl⟩
  · split <;> exact ⟨_, rfl⟩

/-- What is read in the document of a resume that has a text. -/
def readText (resumeId : String) (d : Document) : Validation Resume :=
  Resume.ofFields
    [("resume_id", .text resumeId), ("text", fieldOf d "parsed_text"),
      ("owner_id", fieldOf d "owner_id"), ("filename", fieldOf d "filename")]

theorem of_yields_get {resumeId : String} {owner : Option String} {s s' : Store} {r : Resume}
    (h : (get resumeId owner).Yields s (.ok r) s') : s' = s ∧
      ∃ d, s.resumes.find? (Document.fits (Filter.scoped [("resume_id", resumeId)] owner)) =
        some d ∧ readText resumeId d = .valid r := by
  obtain ⟨found, s₁, hc, h⟩ := yields_bind_ok_iff.mp h
  obtain ⟨rfl, rfl⟩ := yields_call_ok_iff.mp hc
  split at h
  · exact (not_yields_refuse_ok h).elim
  · next d hd =>
    split at h
    · exact (not_yields_refuse_ok h).elim
    · obtain ⟨hr, rfl⟩ := yields_ofValidation_ok_iff.mp h
      exact ⟨rfl, d, hd, hr⟩

theorem resumeId_of_readText {resumeId : String} {d : Document} {r : Resume}
    (h : readText resumeId d = .valid r) : r.resumeId = resumeId := by
  obtain ⟨v, hg, hv⟩ := required_eq_valid_iff.mp (Resume.ofFields_eq_valid_iff.mp h).1
  obtain rfl := text_eq_valid_iff.mp hv
  simpa [Fields.get?] using hg.symm

theorem of_yields_find {resumeId : String} {s s' : Store} {found : Option Resume}
    (h : (find resumeId).Yields s (.ok found) s') : s' = s ∧
      ((found = none ∧ s.resumes.find? (Document.fits [("resume_id", resumeId)]) = none) ∨
        ∃ d r, s.resumes.find? (Document.fits [("resume_id", resumeId)]) = some d ∧
          ofDocument resumeId d = .valid r ∧ found = some r) := by
  obtain ⟨found, s₁, hc, h⟩ := yields_bind_ok_iff.mp h
  obtain ⟨rfl, rfl⟩ := yields_call_ok_iff.mp hc
  split at h
  · next hd =>
    obtain ⟨rfl, rfl⟩ := yields_pure_ok_iff.mp h
    exact ⟨rfl, Or.inl ⟨rfl, hd⟩⟩
  · next d hd =>
    have hne : d.isEmpty = false := by
      have hf := List.find?_some hd
      cases d with
      | nil => simp [Document.fits, Document.holds, Fields.get?] at hf
      | cons => rfl
    rw [hne, if_neg Bool.false_ne_true] at h
    obtain ⟨r, hy, rfl⟩ := yields_map_ok_iff.mp h
    obtain ⟨hr, rfl⟩ := yields_ofValidation_ok_iff.mp hy
    exact ⟨rfl, Or.inr ⟨d, r, hd, hr, rfl⟩⟩

theorem looks_findRecord (o : Occasion) (resumeId : String)
    (h : ok (.findOne .profiles [("resume_id", resumeId)])) :
    (findRecord o resumeId).Looks ok := by
  refine (looks_call _ h).bind fun found => ?_
  split
  · trivial
  · split
    · trivial
    · exact (looks_ofValidation _).bind fun _ => trivial

theorem once_findRecord (o : Occasion) (resumeId : String) :
    (findRecord o resumeId).Once (.findOne .profiles [("resume_id", resumeId)]) := by
  refine once_call_bind fun found => ?_
  split
  · exact ⟨_, rfl⟩
  · split
    · exact ⟨_, rfl⟩
    · exact ⟨_, map_done _ _⟩

end Resumes

namespace Vacancies

variable (o : Occasion)

theorem looks_ofFound (vacancyId : String) (found : Option Document) :
    (ofFound o vacancyId found).Looks ok := by
  rw [ofFound]
  split
  · trivial
  · split <;> trivial

theorem looks_get (vacancyId : String) (owner : Option String)
    (h : ok (.findOne .vacancies (Filter.scoped [("vacancy_id", vacancyId)] owner))) :
    (get o vacancyId owner).Looks ok :=
  (looks_call _ h).bind fun found => looks_ofFound o vacancyId found

theorem once_get (vacancyId : String) (owner : Option String) :
    (get o vacancyId owner).Once
      (.findOne .vacancies (Filter.scoped [("vacancy_id", vacancyId)] owner)) := by
  refine once_call_bind fun found => ?_
  rw [ofFound]
  split
  · exact ⟨_, rfl⟩
  · split <;> exact ⟨_, rfl⟩

theorem of_yields_get {vacancyId : String} {owner : Option String} {s s' : Store} {v : Vacancy}
    (h : (get o vacancyId owner).Yields s (.ok v) s') : s' = s ∧
      ∃ d, s.vacancies.find? (Document.fits (Filter.scoped [("vacancy_id", vacancyId)] owner)) =
        some d ∧ Vacancy.ofFields o (d.erase "_id") = .valid v := by
  obtain ⟨found, s₁, hc, h⟩ := yields_bind_ok_iff.mp h
  obtain ⟨rfl, rfl⟩ := yields_call_ok_iff.mp hc
  rw [ofFound] at h
  split at h
  · exact (not_yields_refuse_ok h).elim
  · next fs hfs =>
    obtain ⟨d, hd, hs⟩ := Option.bind_eq_some_iff.mp hfs
    obtain ⟨-, rfl⟩ := Document.stored?_eq_some_iff.mp hs
    split at h
    · exact (not_yields_refuse_ok h).elim
    · obtain ⟨hv, rfl⟩ := yields_ofValidation_ok_iff.mp h
      exact ⟨rfl, d, hd, hv⟩

theorem ownerId_of_ofFields {o : Occasion} {d : Document} {v : Vacancy} {u : String}
    (h : Vacancy.ofFields o (d.erase "_id") = .valid v) (hu : d.holds "owner_id" u = true) :
    v.ownerId = some u := by
  have hown := (Vacancy.ofFields_eq_valid_iff.mp h).2.1
  have hget : Fields.get? "owner_id" (d.erase "_id") = some (.text u) :=
    (Fields.get?_erase (by decide)).trans (Document.holds_iff.mp hu)
  rw [optional_optionalText_eq_some_iff.mpr hget] at hown
  exact (Validation.valid.inj hown).symm

theorem looks_list (owner : Option String) (limit offset : Nat)
    (h : ok (.findPage .vacancies (Filter.scoped [] owner) limit offset)) :
    (list o owner limit offset).Looks ok :=
  (looks_call _ h).bind fun found => looks_readAll _ found

end Vacancies

namespace Analyses

variable (o : Occasion)

theorem looks_find (analysisId : String)
    (h : ok (.findOne .analyses [("analysis_id", analysisId)])) :
    (find o analysisId).Looks ok := by
  refine (looks_call _ h).bind fun found => ?_
  split
  · trivial
  · split
    · trivial
    · exact (looks_ofValidation _).bind fun _ => trivial

theorem looks_getFor (actor : Actor) (analysisId : String)
    (h : ok (.findOne .analyses [("analysis_id", analysisId)])) :
    (getFor o actor analysisId).Looks ok := by
  refine (looks_find o analysisId h).bind fun found => ?_
  split
  · trivial
  · split <;> trivial

theorem holds_owner {d : Document} {a : Analysis} {u : String}
    (h : Analysis.ofFields o (d.erase "_id") = .valid a) (hu : a.ownerId = some u) :
    d.holds "owner_id" u = true := by
  obtain ⟨-, -, -, hown, -⟩ := Analysis.ofFields_eq_valid_iff.mp h
  rw [hu, optional_optionalText_eq_some_iff, Fields.get?_erase (by decide)] at hown
  exact Document.holds_iff.mpr hown

/-- An analysis that an actor gets is read from a document of the store, and is the actor's own
unless the actor is an administrator. -/
theorem of_yields_getFor {actor : Actor} {analysisId : String} {s s' : Store} {a : Analysis}
    (h : (getFor o actor analysisId).Yields s (.ok a) s') : s' = s ∧
      ∃ d, s.analyses.find? (Document.fits [("analysis_id", analysisId)]) = some d ∧
        Analysis.ofFields o (d.erase "_id") = .valid a ∧
        (actor.isAdmin = true ∨ a.ownerId = some actor.userId) := by
  obtain ⟨found, s₁, hf, h⟩ := yields_bind_ok_iff.mp h
  split at h
  · exact (not_yields_refuse_ok h).elim
  · split at h
    · exact (not_yields_refuse_ok h).elim
    · next b hown =>
      obtain ⟨rfl, rfl⟩ := yields_pure_ok_iff.mp h
      obtain ⟨found, s₂, hc, hf⟩ := yields_bind_ok_iff.mp hf
      obtain ⟨rfl, rfl⟩ := yields_call_ok_iff.mp hc
      split at hf
      · simp [yields_pure_ok_iff] at hf
      · next fs hfs =>
        obtain ⟨d, hd, hs⟩ := Option.bind_eq_some_iff.mp hfs
        obtain ⟨-, rfl⟩ := Document.stored?_eq_some_iff.mp hs
        split at hf
        · simp [yields_pure_ok_iff] at hf
        · obtain ⟨b, hy, he⟩ := yields_map_ok_iff.mp hf
          obtain ⟨hv, rfl⟩ := yields_ofValidation_ok_iff.mp hy
          obtain rfl := Option.some.inj he
          refine ⟨rfl, d, hd, hv, ?_⟩
          simpa [or_iff_not_imp_left] using hown

theorem looks_list (owner : Option String) (limit offset : Nat)
    (h : ok (.findPage .analyses (Filter.scoped [] owner) limit offset)) :
    (list o owner limit offset).Looks ok :=
  (looks_call _ h).bind fun found => looks_readAll _ found

theorem looks_listByVacancy (vacancyId : String) (owner : Option String) (limit offset : Nat)
    (h : ok (.findPage .analyses (Filter.scoped [("vacancy_id", vacancyId)] owner) limit offset)) :
    (listByVacancy o vacancyId owner limit offset).Looks ok :=
  (looks_call _ h).bind fun found => looks_readAll _ found

theorem readOnly_listByVacancyFor (actor : Actor) (vacancyId : String) (limit offset : Nat) :
    (listByVacancyFor o actor vacancyId limit offset).ReadOnly :=
  (Vacancies.looks_get o vacancyId _ (by rfl)).bind fun _ =>
    looks_listByVacancy o vacancyId _ _ _ (by rfl)

theorem readOnly_vacancyReport (actor : Actor) (vacancyId : String) :
    (vacancyReport o actor vacancyId).ReadOnly :=
  (Vacancies.looks_get o vacancyId _ (by rfl)).bind fun _ =>
    (looks_listByVacancy o vacancyId _ _ _ (by rfl)).bind fun _ => trivial

end Analyses

theorem Profiles.readOnly_get (o : Occasion) (actor : Actor) (resumeId : String) :
    (Profiles.get o actor resumeId).ReadOnly := by
  have hr : (Resumes.findRecord o resumeId).ReadOnly :=
    Resumes.looks_findRecord o resumeId (by rfl)
  rw [Profiles.get]
  split
  · refine (Resumes.looks_get resumeId _ (by rfl)).bind fun _ => hr.bind fun found => ?_
    cases found <;> trivial
  · refine hr.bind fun found => ?_
    cases found <;> trivial

end Shortlist
