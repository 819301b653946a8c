import Shortlist.Proofs.Analysis.Enrichment
import Shortlist.Proofs.Program.Pairing
import Shortlist.Proofs.Service.Request

/-! # Separation of owners

An actor who is no administrator can tell two stores apart only by what is theirs in them, and can
change nothing else. That holds request by request: each lookup sees the same on both stores, or
what it sees of others is thrown away. The one exception is an analysis of somebody else that cannot
be read: asking for it by its id tells that it is there.
-/

namespace Shortlist

open Program Relation

def Document.isOf (u : String) (d : Document) : Bool := d.holds "owner_id" u

theorem Document.fits_scoped_some (f : Filter) (u : String) (d : Document) :
    d.fits (f.scoped (some u)) = (d.fits f && d.isOf u) := by
  rw [fits_scoped]
  rfl

namespace Store

/-- The resume with an id, if it is the owner's. -/
def resumeOf (s : Store) (u resumeId : String) : Option Document :=
  s.resumes.find? (Document.fits (Filter.scoped [("resume_id", resumeId)] (some u)))

def hasResumeOf (s : Store) (u : String) (d : Document) : Bool :=
  s.resumes.any fun r => r.isOf u &&
    match r.get? "resume_id" with
    | some (.text id) => d.holds "resume_id" id
    | _ => false

/-- Two stores hold the same for an owner: vacancies and analyses in the same order, resumes, and
the profile records of these resumes. -/
structure Agree (u : String) (s t : Store) : Prop where
  vacancies : s.vacancies.filter (Document.isOf u) = t.vacancies.filter (Document.isOf u)
  analyses : s.analyses.filter (Document.isOf u) = t.analyses.filter (Document.isOf u)
  resumes : ∀ resumeId, s.resumeOf u resumeId = t.resumeOf u resumeId
  profiles : ∀ resumeId, (s.resumeOf u resumeId).isSome →
    s.profiles.find? (Document.fits [("resume_id", resumeId)]) =
      t.profiles.find? (Document.fits [("resume_id", resumeId)])

/-- What is not the owner's stays as it is, and so do all resumes. -/
structure Untouched (u : String) (s s' : Store) : Prop where
  vacancies : s'.vacancies.filter (!Document.isOf u ·) = s.vacancies.filter (!Document.isOf u ·)
  analyses : s'.analyses.filter (!Document.isOf u ·) = s.analyses.filter (!Document.isOf u ·)
  resumes : s'.resumes = s.resumes
  profiles : s'.profiles.filter (!s.hasResumeOf u ·) = s.profiles.filter (!s.hasResumeOf u ·)

end Store

/-! ## What a request leaves alone -/

namespace Store.Untouched

variable {u : String} {s s' s'' : Store}

theorem refl (s : Store) : Untouched u s s := ⟨rfl, rfl, rfl, rfl⟩

theorem trans (h : Untouched u s s') (h' : Untouched u s' s'') : Untouched u s s'' where
  vacancies := h'.vacancies.trans h.vacancies
  analyses := h'.analyses.trans h.analyses
  resumes := h'.resumes.trans h.resumes
  profiles := by
    have hr : s'.hasResumeOf u = s.hasResumeOf u := by
      funext d
      rw [hasResumeOf, hasResumeOf, h.resumes]
    rw [← h.profiles, ← hr, h'.profiles]

end Store.Untouched

/-- A part of the collection stays as it is where what is changed and what it becomes are not in it.
-/
theorem Upserts.filter_eq {f : Filter} {change : Document → Document} {added : Document}
    {ds ds' : List Document} {p : Document → Bool} (h : Upserts f change added ds ds')
    (hold : ∀ d ∈ ds, d.fits f = true → p d = false ∧ p (change d) = false)
    (hadded : p added = false) : ds'.filter p = ds.filter p := by
  cases h with
  | @changed xs ys old hxs hfit =>
    obtain ⟨h₁, h₂⟩ := hold old (by simp) hfit
    simp [List.filter_append, h₁, h₂]
  | added => simp [List.filter_append, hadded]

section Untouched

variable {u : String} {o : Occasion} {actor : Actor} {s s' : Store}

theorem isOf_set_skills {d : Document} (skills : Value) (h : d.isOf u = true) :
    Document.isOf u (Fields.set "skills" skills d) = true := by
  rw [Document.isOf, Document.holds_iff, Fields.get?_set]
  exact Document.holds_iff.mp h

theorem Records.untouched (h : Records (some u) s s') : s.Untouched u s' := by
  obtain ⟨resumeId, d, hd, r, hf, hr, rfl⟩ := h
  obtain ⟨ds, hup, he⟩ := s.answer_replace .profiles [("resume_id", resumeId)] r.toFields
  rw [Document.fits_scoped_some, Bool.and_eq_true, Document.fits_singleton,
    Document.holds_iff] at hf
  have hof {x : Document} (hx : x.holds "resume_id" resumeId = true) :
      (!s.hasResumeOf u x) = false := by
    rw [Bool.not_eq_false', Store.hasResumeOf, List.any_eq_true]
    exact ⟨d, hd, by simp [hf.1, hf.2, hx]⟩
  have hnew : Document.holds r.toFields "resume_id" resumeId = true := by
    rw [Document.holds_iff, ← hr]
    rfl
  rw [he]
  refine ⟨rfl, rfl, rfl, hup.filter_eq (fun x _ hx => ⟨hof ?_, hof hnew⟩) (hof hnew)⟩
  exact Document.fits_singleton ▸ hx

theorem Change.untouched (ha : actor.isAdmin = false) (h : Change actor o s s') :
    s.Untouched actor.userId s' := by
  have hscope : actor.scope = some actor.userId := by simp [Actor.scope, ha]
  cases h with
  | @vacancy v hid hown =>
    have hnew : Document.isOf actor.userId v.toFields = true := by
      simp [Document.isOf, Document.holds_iff, Vacancy.toFields, Fields.get?, hown, Value.ofOption]
    refine ⟨?_, rfl, rfl, rfl⟩
    change (s.vacancies ++ [v.toFields]).filter _ = _
    simp [List.filter_append, hnew]
  | skills vacancyId skills =>
    obtain he | ⟨xs, old, ys, hds, hfit, he⟩ := s.answer_updateOne .vacancies
      (Filter.scoped [("vacancy_id", vacancyId)] actor.scope)
      [("skills", .list (skills.map Requirement.toValue))]
    · rw [he]
      exact .refl s
    · rw [hscope, Document.fits_scoped_some, Bool.and_eq_true] at hfit
      have hnew := isOf_set_skills (.list (skills.map Requirement.toValue)) hfit.2
      rw [he]
      refine ⟨?_, rfl, rfl, rfl⟩
      change (xs ++ _ :: ys).filter _ = (s.documents .vacancies).filter _
      simp [hds, List.filter_append, hfit.2, hnew]
  | @analysis a dv dr v resumeOwner p hid hdv hv hread hdr hr hown hscore =>
    have hnew : Document.isOf actor.userId a.toFields = true := by
      simp [Document.isOf, Document.holds_iff, Analysis.toFields, Fields.get?, hown, analysisOwner,
        ha, Value.ofOption]
    refine ⟨rfl, ?_, rfl, rfl⟩
    change (s.analyses ++ [a.toFields]).filter _ = _
    simp [List.filter_append, hnew]
  | @removal analysisId d hd hown =>
    have hof : d.isOf actor.userId = true := hown.resolve_left (by simp [ha])
    obtain ⟨xs, ys, hds, he⟩ := exists_of_find? hd
    refine ⟨rfl, ?_, rfl, rfl⟩
    change (s.analyses.eraseP _).filter _ = s.analyses.filter _
    rw [he, hds]
    simp [List.filter_append, hof]

theorem Request.untouched {assistant : Option Assistant} (ha : actor.isAdmin = false)
    {q : Request} (hq : q.isUpload = false) {r : Except Fault q.Answer}
    (h : (q.program assistant o actor).Yields s r s') : s.Untouched actor.userId s' := by
  obtain ⟨s₁, hrec, hchange⟩ := q.yields_program hq h
  have hscope : actor.scope = some actor.userId := by simp [Actor.scope, ha]
  have hs₁ : s.Untouched actor.userId s₁ := by
    clear hchange
    induction hrec with
    | refl => exact .refl s
    | tail _ hstep ih => exact ih.trans (hscope ▸ hstep).untouched
  cases hchange with
  | refl => exact hs₁
  | single hc => exact hs₁.trans (hc.untouched ha)

end Untouched

/-! ## What a request can tell -/

section Filters

variable {u : String} {ds : List Document}

theorem find?_scoped (f : Filter) : ds.find? (Document.fits (f.scoped (some u))) =
    (ds.filter (Document.isOf u)).find? (Document.fits f) := by
  rw [List.find?_filter]
  congr 1
  funext d
  rw [Document.fits_scoped_some, Bool.and_comm]
  simp

theorem filter_scoped (f : Filter) : ds.filter (Document.fits (f.scoped (some u))) =
    (ds.filter (Document.isOf u)).filter (Document.fits f) := by
  rw [List.filter_filter]
  congr 1
  funext d
  rw [Document.fits_scoped_some, Bool.and_comm]

end Filters

namespace Store.Agree

variable {u : String} {s t : Store}

theorem find?_vacancies (h : Agree u s t) (f : Filter) :
    s.vacancies.find? (Document.fits (f.scoped (some u))) =
      t.vacancies.find? (Document.fits (f.scoped (some u))) := by
  rw [find?_scoped, find?_scoped, h.vacancies]

theorem findPage (h : Agree u s t) {c : Collection} (hc : c = .vacancies ∨ c = .analyses)
    (f : Filter) (limit offset : Nat) :
    (s.answer (.findPage c (f.scoped (some u)) limit offset)).1 =
      (t.answer (.findPage c (f.scoped (some u)) limit offset)).1 := by
  have hf : (s.documents c).filter (Document.fits (f.scoped (some u))) =
      (t.documents c).filter (Document.fits (f.scoped (some u))) := by
    rw [filter_scoped, filter_scoped]
    rcases hc with rfl | rfl
    · exact congrArg _ h.vacancies
    · exact congrArg _ h.analyses
  simp only [answer, hf]

theorem insertVacancy (h : Agree u s t) (d : Document) :
    Agree u (s.answer (.insert .vacancies d)).2 (t.answer (.insert .vacancies d)).2 where
  vacancies := by
    change (s.vacancies ++ [d]).filter _ = (t.vacancies ++ [d]).filter _
    rw [List.filter_append, List.filter_append, h.vacancies]
  analyses := h.analyses
  resumes := h.resumes
  profiles := h.profiles

theorem insertAnalysis (h : Agree u s t) (d : Document) :
    Agree u (s.answer (.insert .analyses d)).2 (t.answer (.insert .analyses d)).2 where
  vacancies := h.vacancies
  analyses := by
    change (s.analyses ++ [d]).filter _ = (t.analyses ++ [d]).filter _
    rw [List.filter_append, List.filter_append, h.analyses]
  resumes := h.resumes
  profiles := h.profiles

theorem updateSkills (h : Agree u s t) (f : Filter) (skills : Value) :
    (s.answer (.updateOne .vacancies (f.scoped (some u)) [("skills", skills)])).1 =
      (t.answer (.updateOne .vacancies (f.scoped (some u)) [("skills", skills)])).1 ∧
    Agree u (s.answer (.updateOne .vacancies (f.scoped (some u)) [("skills", skills)])).2
      (t.answer (.updateOne .vacancies (f.scoped (some u)) [("skills", skills)])).2 := by
  have hf (d : Document) (hd : d.fits (f.scoped (some u)) = true) : d.isOf u = true := by
    rw [Document.fits_scoped_some, Bool.and_eq_true] at hd
    exact hd.2
  have hc (d : Document) (hd : d.fits (f.scoped (some u)) = true) :
      Document.isOf u (d.merge [("skills", skills)]) = true := isOf_set_skills skills (hf d hd)
  obtain ⟨hs, ds, hs', hds⟩ := s.answer_updateOne_filter .vacancies (f.scoped (some u)) _ hf hc
  obtain ⟨ht, dt, ht', hdt⟩ := t.answer_updateOne_filter .vacancies (f.scoped (some u)) _ hf hc
  have hv : (s.documents .vacancies).filter (Document.isOf u) =
      (t.documents .vacancies).filter (Document.isOf u) := h.vacancies
  rw [hv] at hs hds
  refine ⟨hs.trans ht.symm, ?_⟩
  rw [hs', ht']
  exact ⟨hds.trans hdt.symm, h.analyses, h.resumes, h.profiles⟩

theorem record (h : Agree u s t) {resumeId : String} {r : ProfileRecord}
    (hr : r.resumeId = resumeId) :
    Agree u (s.answer (.replace .profiles [("resume_id", resumeId)] r.toFields)).2
      (t.answer (.replace .profiles [("resume_id", resumeId)] r.toFields)).2 := by
  have hnew : Document.holds r.toFields "resume_id" resumeId = true := by
    rw [Document.holds_iff, ← hr]
    rfl
  obtain ⟨ds, hds, hs⟩ := s.answer_replace .profiles [("resume_id", resumeId)] r.toFields
  obtain ⟨dt, hdt, ht⟩ := t.answer_replace .profiles [("resume_id", resumeId)] r.toFields
  rw [hs, ht]
  refine ⟨h.vacancies, h.analyses, h.resumes, fun id hid => ?_⟩
  change ds.find? _ = dt.find? _
  rw [hds.find?_eq hnew, hdt.find?_eq hnew]
  split
  · rfl
  · exact h.profiles id hid

theorem delete (h : Agree u s t) {f : Filter} {d : Document} (hd : d.isOf u = true)
    (hs : s.analyses.find? (Document.fits f) = some d)
    (ht : t.analyses.find? (Document.fits f) = some d) :
    Agree u (s.answer (.delete .analyses f)).2 (t.answer (.delete .analyses f)).2 where
  vacancies := h.vacancies
  analyses := by
    change (s.analyses.eraseP _).filter _ = (t.analyses.eraseP _).filter _
    rw [filter_eraseP fun x hx => Option.some.inj (hs.symm.trans hx) ▸ hd,
      filter_eraseP fun x hx => Option.some.inj (ht.symm.trans hx) ▸ hd, h.analyses]
  resumes := h.resumes
  profiles := h.profiles

end Store.Agree

/-- Both results are the same, and the stores agree again. -/
def Same {α : Type} (u : String) (a : α) (s : Store) (b : α) (t : Store) : Prop :=
  a = b ∧ Store.Agree u s t

section Pairs

variable {assistant : Option Assistant} {o : Occasion} {actor : Actor} {u : String}
  {s s' t : Store}

theorem Profiles.paired_buildAndSave (resumeId text : String) (h : s.Agree u t) :
    Paired (Store.Agree u) (buildAndSave assistant o resumeId text) s
      (buildAndSave assistant o resumeId text) t (Same u) := by
  refine (calls_buildAndSave assistant o resumeId text).paired ?_ (fun _ _ h => h) h
  rintro _ s t ⟨r, hr, rfl⟩ h
  exact ⟨rfl, h.record hr⟩

theorem Resumes.paired_get (resumeId : String) (h : s.Agree u t) :
    Paired (Store.Agree u) (get resumeId (some u)) s (get resumeId (some u)) t
      fun a s' b t' => (a = b ∧ s' = s ∧ t' = t) ∧ a.resumeId = resumeId ∧
        (s.resumeOf u resumeId).isSome := by
  have hlook := (looks_get resumeId (some u) ⟨by rfl, h.resumes resumeId⟩).paired h
  refine hlook.yields.mono ?_
  rintro r s' _ t' ⟨hsame, hy, -⟩
  obtain ⟨-, d, hd, hr⟩ := of_yields_get hy
  exact ⟨hsame, resumeId_of_readText hr, Option.isSome_iff_exists.mpr ⟨d, hd⟩⟩

theorem Profiles.paired_rebuild (resumeId : String) (hscope : actor.scope = some u)
    (h : s.Agree u t) :
    Paired (Store.Agree u) (rebuild assistant o actor resumeId) s
      (rebuild assistant o actor resumeId) t (Same u) := by
  rw [rebuild, hscope]
  refine (Resumes.paired_get resumeId h).bind ?_
  rintro resume _ _ _ ⟨⟨rfl, rfl, rfl⟩, -, -⟩
  exact paired_buildAndSave resumeId resume.text h

theorem Profiles.paired_get (resumeId : String) (hscope : actor.scope = some u)
    (h : s.Agree u t) :
    Paired (Store.Agree u) (get o actor resumeId) s (get o actor resumeId) t (Same u) := by
  rw [get, hscope]
  refine (Resumes.paired_get resumeId h).bind ?_
  rintro resume _ _ _ ⟨⟨rfl, rfl, rfl⟩, -, hof⟩
  refine ((Resumes.looks_findRecord o resumeId ⟨by rfl, h.profiles resumeId hof⟩).paired h).bind ?_
  rintro record _ _ _ ⟨rfl, rfl, rfl⟩
  cases record with
  | some r => exact paired_pure ⟨rfl, h⟩
  | none => exact paired_fault h

theorem Vacancies.paired_get (vacancyId : String) (h : s.Agree u t) :
    Paired (Store.Agree u) (get o vacancyId (some u)) s (get o vacancyId (some u)) t
      fun a s' b t' => a = b ∧ s' = s ∧ t' = t :=
  (looks_get o vacancyId (some u) ⟨by rfl, h.find?_vacancies _⟩).paired h

theorem Vacancies.paired_create (title description : String) (skills : List Requirement)
    (h : s.Agree u t) :
    Paired (Store.Agree u) (create o actor title description skills) s
      (create o actor title description skills) t (Same u) := by
  rw [create]
  dsimp only
  split
  · exact paired_fault h
  · refine (paired_call _ h).bind ?_
    rintro _ _ _ _ ⟨rfl, rfl, rfl, rfl⟩
    exact paired_pure ⟨rfl, h.insertVacancy _⟩

theorem Vacancies.paired_updateSkillsFor (vacancyId : String) (skills : List Requirement)
    (hscope : actor.scope = some u) (h : s.Agree u t) :
    Paired (Store.Agree u) (updateSkillsFor o actor vacancyId skills) s
      (updateSkillsFor o actor vacancyId skills) t (Same u) := by
  rw [updateSkillsFor, hscope, updateSkills]
  refine (paired_call _ h).bind ?_
  rintro _ _ _ _ ⟨rfl, rfl, rfl, rfl⟩
  obtain ⟨hfound, hagree⟩ := h.updateSkills [("vacancy_id", vacancyId)]
    (.list ((Weighted.collapse skills).map Requirement.toValue))
  rw [hfound]
  refine ((looks_ofFound o vacancyId _).paired hagree).mono ?_
  rintro v _ _ _ ⟨rfl, rfl, rfl⟩
  exact ⟨rfl, hagree⟩

namespace Analyses

/-- An analysis under an id is the owner's, or can at least be read. -/
def Legible (o : Occasion) (u : String) (s : Store) (analysisId : String) : Prop :=
  ∀ d, s.analyses.find? (Document.fits [("analysis_id", analysisId)]) = some d →
    d.isOf u = true ∨ ∃ a, Analysis.ofFields o (d.erase "_id") = .valid a

/-- What the owner has under an id in one store they have in the other. -/
theorem find?_own (h : s.Agree u t) (hs : UniqueIn "analysis_id" s.analyses)
    (ht : UniqueIn "analysis_id" t.analyses) (analysisId : String) :
    (s.analyses.find? (Document.fits [("analysis_id", analysisId)])).filter (Document.isOf u) =
      (t.analyses.find? (Document.fits [("analysis_id", analysisId)])).filter
        (Document.isOf u) := by
  rw [← hs.find?_filter, ← ht.find?_filter, h.analyses]

theorem read_unseen {found : Option Document} {name text : String} (hname : name ≠ "_id")
    (hholds : ∀ d, found = some d → d.holds name text = true)
    (hread : ∀ d, found = some d →
      d.isOf u = false ∧ ∃ a, Analysis.ofFields o (d.erase "_id") = .valid a) :
    ∃ x : Option Analysis, (∀ a, x = some a → a.ownerId ≠ some u) ∧
      (match found.bind Document.stored? with
        | none => pure none
        | some fs =>
          if fs.isEmpty then pure none
          else some <$> Program.ofValidation (Analysis.ofFields o fs) : Program _) = pure x := by
  cases found with
  | none => exact ⟨none, by simp, rfl⟩
  | some d =>
    obtain ⟨hof, a, ha⟩ := hread d rfl
    have hd := hholds d rfl
    refine ⟨some a, fun b hb hu => ?_, ?_⟩
    · obtain rfl := Option.some.inj hb
      exact Bool.false_ne_true (hof.symm.trans (holds_owner o ha hu))
    · rw [Option.bind_some, Document.stored?_of_holds hd]
      simp only [Document.isEmpty_erase_of_holds hd hname, ha]
      rfl

/-- Where an id finds nothing of the owner, what is found is none or somebody else's. -/
theorem paired_find_unseen {analysisId : String} (h : s.Agree u t)
    (hs : ∀ d, s.analyses.find? (Document.fits [("analysis_id", analysisId)]) = some d →
      d.isOf u = false ∧ ∃ a, Analysis.ofFields o (d.erase "_id") = .valid a)
    (ht : ∀ d, t.analyses.find? (Document.fits [("analysis_id", analysisId)]) = some d →
      d.isOf u = false ∧ ∃ a, Analysis.ofFields o (d.erase "_id") = .valid a) :
    Paired (Store.Agree u) (find o analysisId) s (find o analysisId) t fun a s' b t' =>
      (∀ x, a = some x → x.ownerId ≠ some u) ∧ (∀ x, b = some x → x.ownerId ≠ some u) ∧
        s' = s ∧ t' = t := by
  have hid {ds : List Document} (d : Document)
      (hd : ds.find? (Document.fits [("analysis_id", analysisId)]) = some d) :
      d.holds "analysis_id" analysisId = true := Document.fits_singleton ▸ List.find?_some hd
  obtain ⟨x, hxu, hx⟩ := read_unseen (by decide) hid hs
  obtain ⟨y, hyu, hy⟩ := read_unseen (by decide) hid ht
  have hp : Paired (Store.Agree u) (pure x) s (pure y) t fun a s' b t' =>
      (∀ x, a = some x → x.ownerId ≠ some u) ∧ (∀ x, b = some x → x.ownerId ≠ some u) ∧
        s' = s ∧ t' = t :=
    paired_pure ⟨hxu, hyu, rfl, rfl⟩
  rw [← hx, ← hy] at hp
  refine (paired_call _ h).bind ?_
  rintro _ _ _ _ ⟨rfl, rfl, rfl, rfl⟩
  exact hp

theorem paired_getFor {analysisId : String} (hactor : actor.isAdmin = false)
    (h : s.Agree actor.userId t) (hs : UniqueIn "analysis_id" s.analyses)
    (ht : UniqueIn "analysis_id" t.analyses) (hls : Legible o actor.userId s analysisId)
    (hlt : Legible o actor.userId t analysisId) :
    Paired (Store.Agree actor.userId) (getFor o actor analysisId) s (getFor o actor analysisId) t
      fun a s' b t' => a = b ∧ s' = s ∧ t' = t := by
  have hown := find?_own h hs ht analysisId
  cases hd : (t.analyses.find? (Document.fits [("analysis_id", analysisId)])).filter
      (Document.isOf actor.userId) with
  | some d =>
    rw [hd] at hown
    have hanswer := (Option.filter_eq_some_iff.mp hown).1.trans
      (Option.filter_eq_some_iff.mp hd).1.symm
    exact (looks_getFor o actor analysisId ⟨by rfl, hanswer⟩).paired h
  | none =>
    have hunseen {s : Store} (hl : Legible o actor.userId s analysisId)
        (hn : (s.analyses.find? (Document.fits [("analysis_id", analysisId)])).filter
          (Document.isOf actor.userId) = none) (d : Document)
        (hf : s.analyses.find? (Document.fits [("analysis_id", analysisId)]) = some d) :
        d.isOf actor.userId = false ∧ ∃ a, Analysis.ofFields o (d.erase "_id") = .valid a := by
      have hof : d.isOf actor.userId = false := by
        simpa using Option.filter_eq_none_iff.mp hn d hf
      exact ⟨hof, (hl d hf).resolve_left (by simp [hof])⟩
    refine (paired_find_unseen h (hunseen hls (hown.trans hd)) (hunseen hlt hd)).bind ?_
    rintro a _ b _ ⟨ha, hb, rfl, rfl⟩
    have hother {a : Analysis} (ha : a.ownerId ≠ some actor.userId) :
        (!actor.isAdmin && decide (a.ownerId ≠ some actor.userId)) = true := by
      simp [hactor, ha]
    -- Both are refused alike, whether something was found or not.
    cases a with
    | none =>
      cases b with
      | none => exact paired_fault h
      | some b =>
        simp only [hother (hb b rfl), if_true]
        exact paired_fault h
    | some a =>
      simp only [hother (ha a rfl), if_true]
      cases b with
      | none => exact paired_fault h
      | some b =>
        simp only [hother (hb b rfl), if_true]
        exact paired_fault h

theorem paired_deleteFor {analysisId : String} (hactor : actor.isAdmin = false)
    (h : s.Agree actor.userId t) (hs : UniqueIn "analysis_id" s.analyses)
    (ht : UniqueIn "analysis_id" t.analyses) (hls : Legible o actor.userId s analysisId)
    (hlt : Legible o actor.userId t analysisId) :
    Paired (Store.Agree actor.userId) (deleteFor o actor analysisId) s
      (deleteFor o actor analysisId) t (Same actor.userId) := by
  refine (paired_getFor hactor h hs ht hls hlt).yields.bind ?_
  rintro a s _ t ⟨⟨rfl, rfl, rfl⟩, hys, hyt⟩
  obtain ⟨-, d, hd, hread, hown⟩ := of_yields_getFor o hys
  obtain ⟨-, d', hd', hread', -⟩ := of_yields_getFor o hyt
  have hu : a.ownerId = some actor.userId := hown.resolve_left (by simp [hactor])
  have hof : d.isOf actor.userId = true := holds_owner o hread hu
  have hof' : d'.isOf actor.userId = true := holds_owner o hread' hu
  obtain rfl : d = d' := by
    have := find?_own h hs ht analysisId
    rw [hd, hd'] at this
    simpa [Option.filter_some, hof, hof'] using this
  have hdel : Paired (Store.Agree actor.userId) (delete analysisId) s (delete analysisId) t
      fun _ s' _ t' => s'.Agree actor.userId t' := by
    refine (paired_call _ h).bind ?_
    rintro _ _ _ _ ⟨rfl, rfl, rfl, rfl⟩
    exact paired_pure (h.delete hof hd hd')
  exact hdel.bind fun _ _ _ _ h' => paired_pure ⟨rfl, h'⟩

theorem paired_listByVacancy (vacancyId : String) (limit offset : Nat) (h : s.Agree u t) :
    Paired (Store.Agree u) (listByVacancy o vacancyId (some u) limit offset) s
      (listByVacancy o vacancyId (some u) limit offset) t
      fun a s' b t' => a = b ∧ s' = s ∧ t' = t :=
  (looks_listByVacancy o vacancyId (some u) limit offset
    ⟨by rfl, h.findPage (.inr rfl) _ limit offset⟩).paired h

theorem paired_listByVacancyFor (vacancyId : String) (limit offset : Nat)
    (hscope : actor.scope = some u) (h : s.Agree u t) :
    Paired (Store.Agree u) (listByVacancyFor o actor vacancyId limit offset) s
      (listByVacancyFor o actor vacancyId limit offset) t
      fun a s' b t' => a = b ∧ s' = s ∧ t' = t := by
  rw [listByVacancyFor, hscope]
  refine (Vacancies.paired_get vacancyId h).bind ?_
  rintro v _ _ _ ⟨rfl, rfl, rfl⟩
  exact paired_listByVacancy vacancyId limit offset h

theorem paired_vacancyReport (vacancyId : String) (hscope : actor.scope = some u)
    (h : s.Agree u t) :
    Paired (Store.Agree u) (vacancyReport o actor vacancyId) s (vacancyReport o actor vacancyId) t
      fun a s' b t' => a = b ∧ s' = s ∧ t' = t := by
  rw [vacancyReport, hscope]
  refine (Vacancies.paired_get vacancyId h).bind ?_
  rintro v _ _ _ ⟨rfl, rfl, rfl⟩
  refine (paired_listByVacancy vacancyId maxExported 0 h).bind ?_
  rintro as _ _ _ ⟨rfl, rfl, rfl⟩
  exact paired_pure ⟨rfl, rfl, rfl⟩

theorem paired_resolveRecord (resume : Resume) (h : s.Agree u t)
    (hof : (s.resumeOf u resume.resumeId).isSome) :
    Paired (Store.Agree u) (resolveRecord assistant o resume) s (resolveRecord assistant o resume) t
      (Same u) := by
  refine ((Resumes.looks_findRecord o resume.resumeId
    ⟨by rfl, h.profiles resume.resumeId hof⟩).paired h).bind ?_
  rintro record _ _ _ ⟨rfl, rfl, rfl⟩
  cases record with
  | some r => exact paired_pure ⟨rfl, h⟩
  | none => exact Profiles.paired_buildAndSave resume.resumeId resume.text h

theorem paired_enrich (v : Vacancy) (p : Profile) (fit : Fit Float) (h : s.Agree u t) :
    Paired (Store.Agree u) (enrich assistant v p fit) s (enrich assistant v p fit) t (Same u) :=
  (calls_enrich v p fit).paired (fun _ _ _ hc => hc.elim) (fun _ _ h => h) h

theorem paired_create (resumeId vacancyId : String) (hscope : actor.scope = some u)
    (h : s.Agree u t) :
    Paired (Store.Agree u) (create assistant o actor resumeId vacancyId) s
      (create assistant o actor resumeId vacancyId) t (Same u) := by
  rw [create, hscope]
  refine (Vacancies.paired_get vacancyId h).bind ?_
  rintro v s _ t ⟨rfl, rfl, rfl⟩
  refine (Resumes.paired_get resumeId h).bind ?_
  rintro resume s _ t ⟨⟨rfl, rfl, rfl⟩, rfl, hof⟩
  refine (paired_resolveRecord resume h hof).bind ?_
  rintro record s _ t ⟨rfl, h⟩
  split
  · exact paired_fault h
  · refine (paired_enrich v record.profile _ h).bind ?_
    rintro ⟨report, model⟩ s _ t ⟨rfl, h⟩
    refine (paired_call _ h).bind ?_
    rintro _ _ _ _ ⟨rfl, rfl, rfl, rfl⟩
    exact paired_pure ⟨rfl, h.insertAnalysis _⟩

end Analyses

def Request.Legible (o : Occasion) (u : String) (s : Store) : Request → Prop
  | .getAnalysis analysisId | .deleteAnalysis analysisId => Analyses.Legible o u s analysisId
  | _ => True

theorem Request.paired (hactor : actor.isAdmin = false) (hs : s.UniqueIds) (ht : t.UniqueIds)
    (h : s.Agree actor.userId t) {q : Request} (hq : q.isUpload = false)
    (hls : q.Legible o actor.userId s) (hlt : q.Legible o actor.userId t) :
    Paired (Store.Agree actor.userId) (q.program assistant o actor) s
      (q.program assistant o actor) t (Same actor.userId) := by
  have hscope : actor.scope = some actor.userId := by simp [Actor.scope, hactor]
  have hlook {α : Type} {p : Program α}
      (hp : Paired (Store.Agree actor.userId) p s p t fun a s' b t' => a = b ∧ s' = s ∧ t' = t) :
      Paired (Store.Agree actor.userId) p s p t (Same actor.userId) := by
    refine hp.mono ?_
    rintro a _ _ _ ⟨rfl, rfl, rfl⟩
    exact ⟨rfl, h⟩
  cases q with
  | ingest resumeId upload => simp [isUpload] at hq
  | rebuildProfile resumeId => exact Profiles.paired_rebuild resumeId hscope h
  | getProfile resumeId => exact Profiles.paired_get resumeId hscope h
  | createVacancy title description skills =>
    exact Vacancies.paired_create title description skills h
  | getVacancy vacancyId =>
    refine hlook ?_
    rw [program, Vacancies.getFor, hscope]
    exact Vacancies.paired_get vacancyId h
  | listVacancies limit offset =>
    refine hlook ?_
    rw [program, Vacancies.listFor, hscope]
    exact (Vacancies.looks_list o _ limit offset
      ⟨by rfl, h.findPage (.inl rfl) [] limit offset⟩).paired h
  | updateSkills vacancyId skills =>
    exact Vacancies.paired_updateSkillsFor vacancyId skills hscope h
  | createAnalysis resumeId vacancyId => exact Analyses.paired_create resumeId vacancyId hscope h
  | getAnalysis analysisId =>
    exact hlook (Analyses.paired_getFor hactor h (hs .analyses) (ht .analyses) hls hlt)
  | listAnalyses limit offset =>
    refine hlook ?_
    rw [program, Analyses.listFor, hscope]
    exact (Analyses.looks_list o _ limit offset
      ⟨by rfl, h.findPage (.inr rfl) [] limit offset⟩).paired h
  | listByVacancy vacancyId limit offset =>
    exact hlook (Analyses.paired_listByVacancyFor vacancyId limit offset hscope h)
  | vacancyReport vacancyId => exact hlook (Analyses.paired_vacancyReport vacancyId hscope h)
  | deleteAnalysis analysisId =>
    exact Analyses.paired_deleteFor hactor h (hs .analyses) (ht .analyses) hls hlt

theorem Request.untouched_of_run (hactor : actor.isAdmin = false) {q : Request}
    (hq : q.isUpload = false) {w w' : World} {r : Except Fault q.Answer}
    (h : (q.program assistant o actor).run (w.on s) = (r, w'.on s')) :
    s.Untouched actor.userId s' := by
  have hy := yields_run (q.program assistant o actor) (w.on s)
  rw [h] at hy
  exact q.untouched hactor hq hy

/-- For an actor who is no administrator, stores that agree on what is theirs are the same: whatever
they ask for has the same outcome, and the stores agree again. What is not theirs is left alone.
Only where they ask for an analysis by its id does it matter that what others have there can be
read. -/
theorem requests_see_only_own (hactor : actor.isAdmin = false) (hs : s.UniqueIds)
    (ht : t.UniqueIds) (h : s.Agree actor.userId t) {q : Request} (hq : q.isUpload = false)
    (hls : q.Legible o actor.userId s) (hlt : q.Legible o actor.userId t)
    (assistant : Option Assistant) (w : World) :
    ∃ (r : Except Fault q.Answer) (w' : World) (s' t' : Store),
      (q.program assistant o actor).run (w.on s) = (r, w'.on s') ∧
      (q.program assistant o actor).run (w.on t) = (r, w'.on t') ∧
      s'.Agree actor.userId t' ∧ s.Untouched actor.userId s' ∧ t.Untouched actor.userId t' := by
  obtain ⟨w', s', t', ⟨a, _, hrs, hrt, rfl, hagree⟩ | ⟨e, hrs, hrt, hagree⟩⟩ :=
    Request.paired hactor hs ht h hq hls hlt w
  · exact ⟨.ok a, w', s', t', hrs, hrt, hagree, Request.untouched_of_run hactor hq hrs,
      Request.untouched_of_run hactor hq hrt⟩
  · exact ⟨.error e, w', s', t', hrs, hrt, hagree, Request.untouched_of_run hactor hq hrs,
      Request.untouched_of_run hactor hq hrt⟩

end Pairs

namespace Store

open Analyses

theorem uniqueIds_of_length_le {s : Store} (h : ∀ c, (s.documents c).length ≤ 1) : s.UniqueIds :=
  fun c _ => Nat.le_trans List.countP_le_length (h c)

/-- The desk of a recruiter, and an analysis of somebody else's. -/
def sharedDesk : Store :=
  { desk with
    analyses :=
      [[("analysis_id", .text "b1"), ("resume_id", .text "r2"), ("vacancy_id", .text "v2"),
        ("owner_id", .text "bob")]] }

/-- Asking to delete somebody else's analysis is as if it were not there. -/
theorem requests_see_only_own_sharedDesk :
    ∃ (r : Except Fault Unit) (w' : World) (s' t' : Store),
      (deleteFor noon recruiter "b1").run (.quiet desk) = (r, w'.on s') ∧
      (deleteFor noon recruiter "b1").run (.quiet sharedDesk) = (r, w'.on t') ∧
      s'.Agree "alice" t' ∧ desk.Untouched "alice" s' ∧ sharedDesk.Untouched "alice" t' := by
  have hagree : desk.Agree "alice" sharedDesk := ⟨rfl, rfl, fun _ => rfl, fun _ _ => rfl⟩
  have hs : desk.UniqueIds := uniqueIds_of_length_le fun c => by cases c <;> decide
  have ht : sharedDesk.UniqueIds := uniqueIds_of_length_le fun c => by cases c <;> decide
  have hls : Analyses.Legible noon "alice" desk "b1" := by
    intro d hd
    cases hd
  have hlt : Analyses.Legible noon "alice" sharedDesk "b1" := by
    intro d hd
    cases hd
    exact Or.inr ⟨⟨"b1", "r2", "v2", some "bob", 0.0, "", .empty, noon.now⟩, rfl⟩
  have hactor : recruiter.isAdmin = false := rfl
  have hrequest : (Request.deleteAnalysis "b1").isUpload = false := rfl
  exact requests_see_only_own hactor hs ht hagree hrequest hls hlt none (.quiet desk)

/-- An analysis of somebody else's that lacks what an analysis needs. -/
def unreadableDesk : Store :=
  { empty with analyses := [[("analysis_id", .text "a1"), ("owner_id", .text "bob")]] }

/-- Agreeing on what is the actor's is not enough where others have what cannot be read: an id that
finds nothing is refused as unknown, and one that finds an unreadable analysis of somebody else's is
not. -/
theorem unreadable_analysis_shows :
    empty.UniqueIds ∧ unreadableDesk.UniqueIds ∧ empty.Agree "alice" unreadableDesk ∧
      ((getFor noon recruiter "a1").run (.quiet empty)).1 =
        .error (.failure (.notFound "analysis a1 not found" "analysis" "a1")) ∧
      ((getFor noon recruiter "a1").run (.quiet unreadableDesk)).1 ≠
        .error (.failure (.notFound "analysis a1 not found" "analysis" "a1")) := by
  refine ⟨uniqueIds_of_length_le fun c => by cases c <;> decide,
    uniqueIds_of_length_le fun c => by cases c <;> decide,
    ⟨rfl, rfl, fun _ => rfl, fun _ _ => rfl⟩, rfl, ?_⟩
  intro h
  cases h

end Store

end Shortlist
