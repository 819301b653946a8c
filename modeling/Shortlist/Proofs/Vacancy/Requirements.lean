import Shortlist.Proofs.Analysis.Refusal
import Shortlist.Proofs.Session.Consistent
import Shortlist.Proofs.Skill.Collapse
import Shortlist.Proofs.Validation.Stored

/-! # Requirements in the store

Requirements are collapsed before they are written, when they are read and when they are matched.
As collapsing again changes nothing, whoever sees a vacancy reads the collapsed requirements that
were given for it, and a match comes out as it would with the given ones.
-/

namespace Shortlist

open Program

theorem Profile.fit_collapse {ω : Type} [OfScientific ω] [Add ω] [Mul ω] [Div ω] [LT ω]
    [DecidableLT ω] (p : Profile) (rs : List (Weighted ω)) :
    p.fit (Weighted.collapse rs) = p.fit rs := by
  simp only [fit, grade, Weighted.collapse_collapse]

namespace Vacancies

variable {s s' : Store} {o : Occasion} {actor : Actor} {vacancyId : String} {d : Document}
  {v : Vacancy} {rs : List Requirement}

/-- The vacancies of a store are as the service stores them: each under an id of its own and, the
store's own id aside, with the fields of a vacancy. -/
structure Kept (s : Store) : Prop where
  unique : UniqueIn "vacancy_id" s.vacancies
  vacancies : ∀ d ∈ s.vacancies, ∃ v : Vacancy, d.erase "_id" = v.toFields

/-- A session keeps its vacancies. -/
theorem kept_of_reached {σ : Session} (h : σ.Reached) : Kept σ.store where
  unique := h.consistent.unique .vacancies
  vacancies d hd := by
    obtain ⟨v, rfl, -⟩ := h.consistent.vacancies d hd
    exact ⟨v, rfl⟩

/-- The requirements of a vacancy are the given ones, each skill once. -/
structure Demands (v : Vacancy) (rs : List Requirement) : Prop where
  skills : v.skills = Weighted.collapse rs
  nodup : (v.skills.map Weighted.key).Nodup
  key_ne_empty : ∀ r ∈ v.skills, r.key ≠ ""
  fit : ∀ p : Profile, p.fit v.skills = p.fit rs

theorem demands_of_skills (h : v.skills = Weighted.collapse rs) : Demands v rs where
  skills := h
  nodup := h ▸ Weighted.nodup_collapse
  key_ne_empty := h ▸ fun _ => Weighted.key_ne_empty_of_mem_collapse
  fit := h ▸ fun p => p.fit_collapse rs

def withSkills (rs : List Requirement) (d : Document) : Document :=
  d.set "skills" (.list (rs.map Requirement.toValue))

/-- Whoever sees a vacancy reads the given requirements, at any time. -/
def Remembers (s : Store) (vacancyId : String) (rs : List Requirement) : Prop :=
  ∀ (o : Occasion) (reader : Actor) (w : World), w.store = s → w.pendingFaults = [] →
    Visible s reader vacancyId →
      ∃ v, (getFor o reader vacancyId).run w = (.ok v, w) ∧ v.vacancyId = vacancyId ∧
        Demands v rs

/-- What an update of the requirements does to a document that the actor sees, and nothing else. -/
structure Updated (actor : Actor) (vacancyId : String) (rs : List Requirement) (s s' : Store) :
    Prop where
  changed : ∃ xs old ys, s.vacancies = xs ++ old :: ys ∧
    Document.fits (Filter.scoped [("vacancy_id", vacancyId)] actor.scope) old = true ∧
    s' = s.withDocuments .vacancies (xs ++ withSkills (Weighted.collapse rs) old :: ys)
  visible : Visible s' actor vacancyId
  kept : Kept s'
  remembered : Remembers s' vacancyId rs

theorem holds_vacancyId_iff (h : d.erase "_id" = v.toFields) :
    d.holds "vacancy_id" vacancyId = true ↔ v.vacancyId = vacancyId := by
  have hget : Fields.get? "vacancy_id" (d.erase "_id") = d.get? "vacancy_id" :=
    Fields.get?_erase (by decide)
  rw [h] at hget
  rw [Document.holds_iff, ← hget]
  simp [Vacancy.toFields, Fields.get?]

theorem fits_withSkills (rs : List Requirement) {owner : Option String} :
    Document.fits (Filter.scoped [("vacancy_id", vacancyId)] owner) (withSkills rs d) =
      d.fits (Filter.scoped [("vacancy_id", vacancyId)] owner) := by
  have hholds {name text : String} (h : "skills" ≠ name) :
      Document.holds (withSkills rs d) name text = d.holds name text := by
    rw [Document.holds, withSkills, Fields.get?_set, if_neg h, Document.holds]
  rw [Document.fits_scoped, Document.fits_scoped, Document.fits_singleton,
    Document.fits_singleton, hholds (by decide)]
  simp only [hholds (show "skills" ≠ "owner_id" by decide)]

namespace Kept

theorem remembers (h : Kept s) (hd : d ∈ s.vacancies) (hv : d.erase "_id" = v.toFields)
    (hid : v.vacancyId = vacancyId) (hs : Weighted.collapse v.skills = Weighted.collapse rs) :
    Remembers s vacancyId rs := by
  rintro o reader w rfl hw ⟨d', hd', hfit⟩
  have hholds (x : Document)
      (hx : x.fits (Filter.scoped [("vacancy_id", vacancyId)] reader.scope) = true) :
      x.holds "vacancy_id" vacancyId = true := by
    rw [Document.fits_scoped, Bool.and_eq_true, Document.fits_singleton] at hx
    exact hx.1
  have hdid := (holds_vacancyId_iff hv).mpr hid
  obtain rfl := h.unique.eq_of_holds hd hd' hdid (hholds d' hfit)
  have hfind := h.unique.find?_eq_some_of_fits hd hdid hfit hholds
  have hread : Vacancy.ofFields o (d.erase "_id") = .valid _ := hv ▸ v.ofFields_toFields o
  exact ⟨_, run_get_of_some hw hfind hread, hid, demands_of_skills hs⟩

theorem exchange (h : Kept s) (rs : List Requirement) {xs ys : List Document}
    (hds : s.vacancies = xs ++ d :: ys) :
    ∃ v : Vacancy, d.erase "_id" = v.toFields ∧
      Fields.erase "_id" (withSkills rs d) = { v with skills := rs }.toFields ∧
      Kept (s.withDocuments .vacancies (xs ++ withSkills rs d :: ys)) := by
  obtain ⟨v, hv⟩ := h.vacancies d (hds ▸ List.mem_append_right _ List.mem_cons_self)
  have herase : Fields.erase "_id" (withSkills rs d) =
      { v with skills := rs }.toFields := by
    rw [withSkills, Fields.erase_set _ (by decide), hv]
    rfl
  refine ⟨v, hv, herase, ?_, ?_⟩
  · have hu := h.unique
    rw [hds] at hu
    apply hu.exchange
    intro id hid
    exact (holds_vacancyId_iff hv).mpr ((holds_vacancyId_iff herase).mp hid)
  · intro x hx
    obtain hx | rfl := mem_exchange hx
    · exact h.vacancies x (hds ▸ hx)
    · exact ⟨_, herase⟩

theorem insert (h : Kept s) (v : Vacancy)
    (hid : ∀ d ∈ s.vacancies, d.holds "vacancy_id" v.vacancyId = false) :
    Kept (s.withDocuments .vacancies (s.vacancies ++ [v.toFields])) := by
  have herase : Fields.erase "_id" v.toFields = v.toFields := rfl
  constructor
  · apply h.unique.concat
    intro id hv
    rw [← (holds_vacancyId_iff herase).mp hv]
    exact hid
  · intro d hd
    rcases List.mem_append.mp hd with hd | hd
    · exact h.vacancies d hd
    · rw [List.mem_singleton.mp hd]
      exact ⟨v, herase⟩

theorem of_yields_create (h : Kept s) {title description : String}
    (hid : ∀ d ∈ s.vacancies, d.holds "vacancy_id" o.freshId = false)
    (hy : (create o actor title description rs).Yields s (.ok v) s') :
    Kept s' ∧ Visible s' actor v.vacancyId ∧ Remembers s' v.vacancyId rs := by
  rw [create] at hy
  dsimp only at hy
  split at hy
  · exact (not_yields_refuse_ok hy).elim
  · obtain ⟨_, s₁, hcall, hp⟩ := yields_bind_ok_iff.mp hy
    obtain ⟨hv, rfl⟩ := yields_pure_ok_iff.mp hp
    obtain ⟨-, rfl⟩ := yields_call_ok_iff.mp hcall
    have hk := h.insert v (hv ▸ hid)
    rw [← hv]
    have hmem : v.toFields ∈ s.vacancies ++ [v.toFields] :=
      List.mem_append_right _ List.mem_cons_self
    refine ⟨hk, ⟨v.toFields, hmem, ?_⟩, hk.remembers hmem rfl rfl ?_⟩
    · rw [Document.fits_scoped, Bool.and_eq_true, Document.fits_singleton]
      subst hv
      constructor
      · simp [Document.holds, Vacancy.toFields, Fields.get?]
      · rw [Actor.scope]
        split <;> simp [Document.holds, Vacancy.toFields, Fields.get?, Value.ofOption]
    · subst hv
      exact Weighted.collapse_collapse rs

/-- An update that comes to an end has been carried out, and one that fails has done nothing. -/
theorem of_yields_updateSkillsFor (h : Kept s) {r : Except Fault Vacancy}
    (hy : (updateSkillsFor o actor vacancyId rs).Yields s r s') :
    (∃ fault, r = .error fault) ∧ s' = s ∨ (∃ v, r = .ok v) ∧ Updated actor vacancyId rs s s' := by
  obtain ⟨found, s₁, hcall, hf⟩ | ⟨fault, hcall, rfl⟩ := yields_bind_iff.mp hy
  swap
  · exact Or.inl ⟨⟨fault, rfl⟩, eq_of_yields_call_error hcall⟩
  obtain ⟨rfl, rfl⟩ := yields_call_ok_iff.mp hcall
  obtain he | ⟨xs, old, ys, hds, hfit, he⟩ := s.answer_updateOne .vacancies
    (Filter.scoped [("vacancy_id", vacancyId)] actor.scope)
    [("skills", .list ((Weighted.collapse rs).map Requirement.toValue))]
  · rw [he] at hf
    obtain ⟨rfl, rfl⟩ := yields_done_iff.mp hf
    exact Or.inl ⟨⟨_, rfl⟩, rfl⟩
  · rw [he] at hf
    obtain ⟨v, hv, herase, hk⟩ := h.exchange (Weighted.collapse rs) hds
    have hmem : withSkills (Weighted.collapse rs) old ∈
        xs ++ withSkills (Weighted.collapse rs) old :: ys :=
      List.mem_append_right _ List.mem_cons_self
    rw [← fits_withSkills (Weighted.collapse rs)] at hfit
    have hid := hfit
    rw [Document.fits_scoped, Bool.and_eq_true, Document.fits_singleton] at hid
    -- What was written can be read.
    have hread := ({ v with skills := Weighted.collapse rs } : Vacancy).ofFields_toFields o
    rw [← herase] at hread
    have hfound : ofFound o vacancyId (some (old.merge
        [("skills", .list ((Weighted.collapse rs).map Requirement.toValue))])) = .done (.ok _) :=
      ofFound_of_holds hid.1 hread
    rw [hfound] at hf
    obtain ⟨rfl, rfl⟩ := yields_done_iff.mp hf
    right
    refine ⟨⟨_, rfl⟩, ?_, ⟨_, hmem, hfit⟩, hk, ?_⟩
    · exact ⟨xs, old, ys, hds, fits_withSkills _ ▸ hfit, rfl⟩
    · apply hk.remembers hmem herase ((holds_vacancyId_iff herase).mp hid.1)
      exact Weighted.collapse_collapse _

end Kept

/-- Given requirements are what the vacancy is read with from then on, collapsed and without effect
on any match, whether they come with a new vacancy or replace others. An update touches nothing but
the requirements in one document, and a failed one nothing at all. Collapsing once is enough, at
whatever stage. -/
theorem requirements_survive_storage (h : Kept s) (o : Occasion) (actor : Actor)
    (rs : List Requirement) :
    (∀ title description v s', (∀ d ∈ s.vacancies, d.holds "vacancy_id" o.freshId = false) →
      (create o actor title description rs).Yields s (.ok v) s' →
        Kept s' ∧ Visible s' actor v.vacancyId ∧ Remembers s' v.vacancyId rs) ∧
    (∀ vacancyId r s', (updateSkillsFor o actor vacancyId rs).Yields s r s' →
      (∃ fault, r = .error fault) ∧ s' = s ∨
        (∃ v, r = .ok v) ∧ Updated actor vacancyId rs s s') ∧
    ∀ xs ys : List Requirement,
      Weighted.collapse (Weighted.collapse xs) = Weighted.collapse xs ∧
      Weighted.collapse (Weighted.collapse xs ++ ys) = Weighted.collapse (xs ++ ys) ∧
      Weighted.collapse (xs ++ Weighted.collapse ys) = Weighted.collapse (xs ++ ys) := by
  refine ⟨fun _ _ _ _ hid hy => h.of_yields_create hid hy,
    fun _ _ _ hy => h.of_yields_updateSkillsFor hy, fun xs ys => ?_⟩
  refine ⟨Weighted.collapse_collapse xs, ?_, ?_⟩
  · rw [← Weighted.collapse_append_collapse, Weighted.collapse_collapse,
      Weighted.collapse_append_collapse]
  · rw [← Weighted.collapse_append_collapse, Weighted.collapse_collapse,
      Weighted.collapse_append_collapse]

open Analyses (noon recruiter)

/-- A store with one vacancy, which has no requirements. -/
def opening : Store :=
  { Store.empty with
    vacancies := [Vacancy.toFields ⟨"v1", some "alice", "Gopher", "", [], noon.now⟩] }

def twice : List Requirement := [⟨"Go", 1.0⟩, ⟨" go", 2.0⟩]

theorem requirements_survive_storage_opening : Kept opening ∧
    (∃ v s', (create noon recruiter "Engineer" "" twice).Yields opening (.ok v) s' ∧
      Remembers s' v.vacancyId twice) ∧
    ∃ v s', (updateSkillsFor noon recruiter "v1" twice).Yields opening (.ok v) s' ∧
      Remembers s' "v1" twice := by
  have hk : Kept opening := by
    constructor
    · exact fun _ => List.countP_le_length
    · intro d hd
      rw [List.mem_singleton.mp hd]
      exact ⟨_, rfl⟩
  obtain ⟨hcreate, hupdate, -⟩ := requirements_survive_storage hk noon recruiter twice
  refine ⟨hk, ?_, ?_⟩
  · have hy : (create noon recruiter "Engineer" "" twice).Yields opening (.ok _) _ :=
      yields_run _ (.quiet opening)
    refine ⟨_, _, hy, (hcreate _ _ _ _ ?_ hy).2.2⟩
    intro d hd
    rw [List.mem_singleton.mp hd]
    decide
  · have hy : (updateSkillsFor noon recruiter "v1" twice).Yields opening (.ok _) _ :=
      yields_run _ (.quiet opening)
    obtain ⟨⟨fault, hf⟩, -⟩ | ⟨-, hu⟩ := hupdate _ _ _ hy
    · cases hf
    · exact ⟨_, _, hy, hu.remembered⟩

end Vacancies

end Shortlist
