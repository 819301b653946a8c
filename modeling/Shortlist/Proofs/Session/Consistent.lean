import Shortlist.Proofs.Service.Upload

/-! # Sessions

A session serves requests one after another, of administrators and others, from an empty store on.
Each step keeps the store consistent: ids are unique, resumes and vacancies have an owner, and an
analysis refers to a vacancy of its owner and to a resume. No resume or vacancy gets lost or changes
hands.
-/

namespace Shortlist

open Program Relation

/-- A store, and the ids that were given out for it. -/
structure Session where
  store : Store
  issued : List String

namespace Session

def start : Session := ⟨.empty, []⟩

inductive Step : Session → Session → Prop where
  | serve {σ : Session} {assistant : Option Assistant} {o : Occasion} {actor : Actor} {q : Request}
      {r : Except Fault q.Answer} {s' : Store} (hactor : actor.userId ≠ "")
      (hfresh : o.freshId ∉ σ.issued)
      (h : (q.program assistant o actor).Yields σ.store r s') :
      Step σ ⟨s', o.freshId :: σ.issued⟩

def Reached (σ : Session) : Prop := ReflTransGen Step start σ

end Session

/-! ## Documents that stay -/

/-- Every document is still there with its id and its owner. -/
def Keeps (key : String) (ds ds' : List Document) : Prop :=
  ∀ d ∈ ds, ∃ d' ∈ ds', d'.get? key = d.get? key ∧ d'.get? "owner_id" = d.get? "owner_id"

namespace Keeps

variable {key : String} {ds ds' ds'' xs ys : List Document} {d d' : Document}

theorem refl (key : String) (ds : List Document) : Keeps key ds ds :=
  fun d hd => ⟨d, hd, rfl, rfl⟩

theorem trans (h : Keeps key ds ds') (h' : Keeps key ds' ds'') : Keeps key ds ds'' := by
  intro d hd
  obtain ⟨d', hd', hk', ho'⟩ := h d hd
  obtain ⟨d'', hd'', hk'', ho''⟩ := h' d' hd'
  exact ⟨d'', hd'', hk''.trans hk', ho''.trans ho'⟩

theorem concat (key : String) (ds : List Document) (d : Document) : Keeps key ds (ds ++ [d]) :=
  fun d hd => ⟨d, List.mem_append_left _ hd, rfl, rfl⟩

theorem exchange (hk : d'.get? key = d.get? key)
    (ho : d'.get? "owner_id" = d.get? "owner_id") : Keeps key (xs ++ d :: ys) (xs ++ d' :: ys) := by
  intro x hx
  rcases List.mem_append.mp hx with hx | hx
  · exact ⟨x, List.mem_append_left _ hx, rfl, rfl⟩
  · rcases List.mem_cons.mp hx with rfl | hx
    · exact ⟨d', List.mem_append_right _ List.mem_cons_self, hk, ho⟩
    · exact ⟨x, List.mem_append_right _ (List.mem_cons_of_mem _ hx), rfl, rfl⟩

end Keeps

/-- No resume and no vacancy is lost or changes hands. -/
structure Store.Extends (s s' : Store) : Prop where
  resumes : Keeps "resume_id" s.resumes s'.resumes
  vacancies : Keeps "vacancy_id" s.vacancies s'.vacancies

namespace Store.Extends

variable {s s' s'' : Store}

theorem refl (s : Store) : s.Extends s := ⟨.refl _ _, .refl _ _⟩

theorem trans (h : s.Extends s') (h' : s'.Extends s'') : s.Extends s'' :=
  ⟨h.resumes.trans h'.resumes, h.vacancies.trans h'.vacancies⟩

end Store.Extends

/-! ## Consistent stores -/

def Analysis.Referring (s : Store) (a : Analysis) : Prop :=
  ∃ u, a.ownerId = some u ∧
    (∃ v ∈ s.vacancies, v.holds "vacancy_id" a.vacancyId = true ∧ v.holds "owner_id" u = true) ∧
    ∃ r ∈ s.resumes, r.holds "resume_id" a.resumeId = true

/-- An analysis gets the owner of its vacancy if only they or administrators reach the vacancy. -/
theorem analysisOwner_eq {actor : Actor} {v : Vacancy} {resumeOwner : Option String} {u : String}
    (hv : v.ownerId = some u) (hu : u ≠ "") (hactor : actor.isAdmin = false → actor.userId = u) :
    analysisOwner actor v resumeOwner = u := by
  have hne : (!u.isEmpty) = true := by simpa [String.isEmpty_iff] using hu
  rw [analysisOwner]
  cases ha : actor.isAdmin with
  | false => exact hactor ha
  | true => simp [hv, Option.filter_some, hne]

/-- What holds of a store after some ids have been given out. -/
structure Consistent (issued : List String) (s : Store) : Prop where
  unique : s.UniqueIds
  resumes : ∀ d ∈ s.resumes, IsResume d
  profiles : ∀ d ∈ s.profiles, ∃ r : ProfileRecord, d = r.toFields
  vacancies : ∀ d ∈ s.vacancies, ∃ v : Vacancy, d = v.toFields ∧ v.vacancyId ∈ issued ∧
    ∃ u, v.ownerId = some u ∧ u ≠ ""
  analyses : ∀ d ∈ s.analyses, ∃ a : Analysis, d = a.toFields ∧ a.analysisId ∈ issued ∧
    Analysis.score? (.float a.score) = .valid a.score ∧ a.Referring s

theorem Analysis.Referring.extend {s s' : Store} {a : Analysis} (h : a.Referring s)
    (he : s.Extends s') : a.Referring s' := by
  obtain ⟨u, hu, ⟨v, hv, hvid, hvu⟩, r, hr, hrid⟩ := h
  obtain ⟨v', hv', hkey, howner⟩ := he.vacancies v hv
  obtain ⟨r', hr', hrkey, -⟩ := he.resumes r hr
  rw [Document.holds_iff] at hvid hvu hrid
  exact ⟨u, hu, ⟨v', hv', Document.holds_iff.mpr (hkey.trans hvid),
    Document.holds_iff.mpr (howner.trans hvu)⟩, r', hr',
    Document.holds_iff.mpr (hrkey.trans hrid)⟩

namespace Consistent

variable {issued : List String} {s s' : Store} {o : Occasion} {actor : Actor}

theorem empty : Consistent [] .empty where
  unique c := by cases c <;> exact .nil
  resumes := by simp [Store.empty]
  profiles := by simp [Store.empty]
  vacancies := by simp [Store.empty]
  analyses := by simp [Store.empty]

theorem issue (h : Consistent issued s) (id : String) : Consistent (id :: issued) s where
  unique := h.unique
  resumes := h.resumes
  profiles := h.profiles
  vacancies d hd := by
    obtain ⟨v, hv, hid, hu⟩ := h.vacancies d hd
    exact ⟨v, hv, List.mem_cons_of_mem _ hid, hu⟩
  analyses d hd := by
    obtain ⟨a, ha, hid, hrest⟩ := h.analyses d hd
    exact ⟨a, ha, List.mem_cons_of_mem _ hid, hrest⟩

theorem records {owner : Option String} (h : Consistent issued s) (hr : Records owner s s') :
    Consistent issued s' ∧ s.Extends s' := by
  obtain ⟨resumeId, d, hd, r, hf, hid, rfl⟩ := hr
  have hnew : Document.holds r.toFields "resume_id" resumeId = true := by
    rw [Document.holds_iff, ← hid]
    rfl
  obtain ⟨ds, hup, he⟩ := s.answer_replace .profiles [("resume_id", resumeId)] r.toFields
  have hunique : UniqueIn "resume_id" ds :=
    (h.unique .profiles).upserts hup rfl (fun _ _ => hnew) hnew
  have hform : ∀ x ∈ ds, ∃ r : ProfileRecord, x = r.toFields := by
    intro x hx
    obtain hx | ⟨_, _, _, rfl⟩ | rfl := hup.mem hx
    · exact h.profiles x hx
    · exact ⟨r, rfl⟩
    · exact ⟨r, rfl⟩
  rw [he]
  exact ⟨⟨h.unique.withDocuments hunique, h.resumes, hform, h.vacancies, h.analyses⟩,
    .refl _ _, .refl _ _⟩

theorem recordings {owner : Option String} (h : Consistent issued s)
    (hr : ReflTransGen (Records owner) s s') : Consistent issued s' ∧ s.Extends s' := by
  induction hr with
  | refl => exact ⟨h, .refl s⟩
  | tail _ hstep ih =>
    obtain ⟨hc, he⟩ := ih.1.records hstep
    exact ⟨hc, ih.2.trans he⟩

theorem vacancy (h : Consistent issued s) {v : Vacancy} {u : String} (hid : v.vacancyId ∉ issued)
    (hown : v.ownerId = some u) (hu : u ≠ "") :
    Consistent (v.vacancyId :: issued) (s.answer (.insert .vacancies v.toFields)).2 ∧
      s.Extends (s.answer (.insert .vacancies v.toFields)).2 := by
  have hext : s.Extends (s.answer (.insert .vacancies v.toFields)).2 :=
    ⟨.refl _ _, .concat _ _ _⟩
  have hholds {w : Vacancy} {id : String}
      (hw : Document.holds w.toFields "vacancy_id" id = true) : w.vacancyId = id := by
    simpa [Document.holds, Vacancy.toFields, Fields.get?] using hw
  have hunique : UniqueIn "vacancy_id" (s.vacancies ++ [v.toFields]) := by
    refine UniqueIn.concat (h.unique .vacancies) fun id hv x hx => ?_
    obtain ⟨w, rfl, hw, -⟩ := h.vacancies x hx
    exact Bool.eq_false_iff.mpr fun hx => hid (hholds hv ▸ hholds hx ▸ hw)
  refine ⟨⟨h.unique.withDocuments hunique, h.resumes, h.profiles, fun x hx => ?_, fun x hx => ?_⟩,
    hext⟩
  · rcases List.mem_append.mp hx with hx | hx
    · exact (h.issue v.vacancyId).vacancies x hx
    · exact ⟨v, List.mem_singleton.mp hx, List.mem_cons_self, u, hown, hu⟩
  · obtain ⟨a, ha, haid, hscore, href⟩ := (h.issue v.vacancyId).analyses x hx
    exact ⟨a, ha, haid, hscore, href.extend hext⟩

theorem skills (h : Consistent issued s) (f : Filter) (skills : List Requirement) :
    Consistent issued (s.answer (.updateOne .vacancies f
        [("skills", .list (skills.map Requirement.toValue))])).2 ∧
      s.Extends (s.answer (.updateOne .vacancies f
        [("skills", .list (skills.map Requirement.toValue))])).2 := by
  obtain he | ⟨xs, old, ys, hds, -, he⟩ := s.answer_updateOne .vacancies f
    [("skills", .list (skills.map Requirement.toValue))]
  · rw [he]
    exact ⟨h, .refl s⟩
  have hvacancies : s.vacancies = xs ++ old :: ys := hds
  have hold : old ∈ s.vacancies := by simp [hvacancies]
  obtain ⟨v, rfl, hid, hown⟩ := h.vacancies old hold
  -- The changed document is that of the vacancy with the new requirements.
  have hnew : Fields.merge v.toFields [("skills", .list (skills.map Requirement.toValue))] =
      { v with skills }.toFields := rfl
  rw [he, hnew]
  have hkeeps : Keeps "vacancy_id" s.vacancies (xs ++ { v with skills }.toFields :: ys) :=
    hvacancies ▸ .exchange rfl rfl
  have hext : s.Extends (s.withDocuments .vacancies (xs ++ { v with skills }.toFields :: ys)) :=
    ⟨.refl _ _, hkeeps⟩
  have hunique : UniqueIn "vacancy_id" (xs ++ { v with skills }.toFields :: ys) := by
    have hu := h.unique .vacancies
    rw [hds] at hu
    exact hu.exchange fun _ hk => hk
  refine ⟨⟨h.unique.withDocuments hunique, h.resumes, h.profiles, fun x hx => ?_, fun x hx => ?_⟩,
    hext⟩
  · obtain hx | rfl := mem_exchange hx
    · exact h.vacancies x (hvacancies ▸ hx)
    · exact ⟨_, rfl, hid, hown⟩
  · obtain ⟨a, ha, haid, hscore, href⟩ := h.analyses x hx
    exact ⟨a, ha, haid, hscore, href.extend hext⟩

theorem analysis (h : Consistent issued s) {a : Analysis} (hid : a.analysisId ∉ issued)
    (hscore : Analysis.score? (.float a.score) = .valid a.score) (href : a.Referring s) :
    Consistent (a.analysisId :: issued) (s.answer (.insert .analyses a.toFields)).2 ∧
      s.Extends (s.answer (.insert .analyses a.toFields)).2 := by
  have hext : s.Extends (s.answer (.insert .analyses a.toFields)).2 := ⟨.refl _ _, .refl _ _⟩
  have hholds {b : Analysis} {id : String}
      (hb : Document.holds b.toFields "analysis_id" id = true) : b.analysisId = id := by
    simpa [Document.holds, Analysis.toFields, Fields.get?] using hb
  have hunique : UniqueIn "analysis_id" (s.analyses ++ [a.toFields]) := by
    refine UniqueIn.concat (h.unique .analyses) fun id ha x hx => ?_
    obtain ⟨b, rfl, hb, -⟩ := h.analyses x hx
    exact Bool.eq_false_iff.mpr fun hx => hid (hholds ha ▸ hholds hx ▸ hb)
  refine ⟨⟨h.unique.withDocuments hunique, h.resumes, h.profiles,
    (h.issue a.analysisId).vacancies, fun x hx => ?_⟩, hext⟩
  rcases List.mem_append.mp hx with hx | hx
  · obtain ⟨b, hb, hbid, hbscore, hbref⟩ := (h.issue a.analysisId).analyses x hx
    exact ⟨b, hb, hbid, hbscore, hbref.extend hext⟩
  · exact ⟨a, List.mem_singleton.mp hx, List.mem_cons_self, hscore, href.extend hext⟩

theorem removal (h : Consistent issued s) (f : Filter) :
    Consistent issued (s.answer (.delete .analyses f)).2 ∧
      s.Extends (s.answer (.delete .analyses f)).2 := by
  have hext : s.Extends (s.answer (.delete .analyses f)).2 := ⟨.refl _ _, .refl _ _⟩
  have hunique : UniqueIn "analysis_id" (s.analyses.eraseP (Document.fits f)) :=
    (h.unique .analyses).sublist List.eraseP_sublist
  refine ⟨⟨h.unique.withDocuments hunique, h.resumes, h.profiles, h.vacancies, fun x hx => ?_⟩,
    hext⟩
  obtain ⟨a, ha, hid, hscore, href⟩ := h.analyses x (List.mem_of_mem_eraseP hx)
  exact ⟨a, ha, hid, hscore, href.extend hext⟩

theorem saved (h : Consistent issued s) {resumeId text owner : String} {filename : Option String}
    (howner : owner ≠ "")
    (hsame : ∀ d, s.resumes.find? (Document.fits [("resume_id", resumeId)]) = some d →
      d.holds "owner_id" owner = true) :
    Consistent issued (Resumes.saved s ⟨resumeId, text, some owner, filename⟩) ∧
      s.Extends (Resumes.saved s ⟨resumeId, text, some owner, filename⟩) := by
  obtain ⟨ds, hup, he⟩ := Resumes.upserts_saved s resumeId text owner filename
  have hunique : UniqueIn "resume_id" ds :=
    (h.unique .resumes).upserts hup rfl (fun _ hd => (Resumes.holds_resumeId_save _).trans hd)
      Resumes.holds_resumeId_added
  have hform : ∀ x ∈ ds, IsResume x := by
    intro x hx
    obtain hx | ⟨old, hold, _, rfl⟩ | rfl := hup.mem hx
    · exact h.resumes x hx
    · exact Resumes.isResume_save (h.resumes old hold).id howner (h.resumes old hold).filename
    · exact Resumes.isResume_save ⟨resumeId, by simp [Document.holds, Fields.get?]⟩ howner
        ⟨none, by simp [Fields.get?]⟩
  have hkeeps : Keeps "resume_id" s.resumes ds := by
    have hu := h.unique .resumes
    change UniqueIn "resume_id" s.resumes at hu
    generalize s.resumes = ds₀ at hup hsame hu
    cases hup with
    | @changed xs ys old hxs hfit =>
      rw [Document.fits_singleton] at hfit
      have hown := hsame old (hu.find?_eq_some (by simp) hfit)
      refine .exchange Resumes.get?_resumeId_save ?_
      rw [Document.holds_iff.mp hown, Document.holds_iff.mp Resumes.holds_owner_save]
    | added hds => exact .concat _ _ _
  have hext : s.Extends (Resumes.saved s ⟨resumeId, text, some owner, filename⟩) :=
    he ▸ ⟨hkeeps, .refl _ _⟩
  have hids : (Resumes.saved s ⟨resumeId, text, some owner, filename⟩).UniqueIds :=
    he ▸ Store.UniqueIds.withDocuments (c := .resumes) h.unique hunique
  refine ⟨⟨hids, he ▸ hform, he ▸ h.profiles, he ▸ h.vacancies, fun x hx => ?_⟩, hext⟩
  have hx' : x ∈ s.analyses := by rwa [he] at hx
  obtain ⟨a, ha, hid, hscore, href⟩ := h.analyses x hx'
  exact ⟨a, ha, hid, hscore, href.extend hext⟩

theorem change (h : Consistent issued s) (hfresh : o.freshId ∉ issued)
    (hactor : actor.userId ≠ "") (hc : Change actor o s s') :
    Consistent (o.freshId :: issued) s' ∧ s.Extends s' := by
  cases hc with
  | vacancy hid hown => exact hid ▸ h.vacancy (hid ▸ hfresh) hown hactor
  | skills vacancyId skills => exact (h.skills _ skills).imp_left fun hs => hs.issue _
  | removal hd hown => exact (h.removal _).imp_left fun hs => hs.issue _
  | @analysis a dv dr v resumeOwner p hid hdv hv hread hdr hr hown hscore =>
    -- The vacancy has an owner, who is the actor unless the actor is an administrator.
    obtain ⟨w, rfl, -, u, hu, hne⟩ := h.vacancies dv hdv
    rw [Document.fits_scoped, Bool.and_eq_true, Document.fits_singleton] at hv hr
    have hvu : Document.holds w.toFields "owner_id" u = true := by
      simp [Document.holds_iff, Vacancy.toFields, Fields.get?, hu, Value.ofOption]
    have howner : a.ownerId = some u := by
      rw [hown, analysisOwner_eq (Vacancies.ownerId_of_ofFields hread hvu) hne fun ha => ?_]
      have hscope : actor.scope = some actor.userId := by simp [Actor.scope, ha]
      rw [hscope, Option.all_some] at hv
      exact Document.eq_of_holds hv.2 hvu
    refine hid ▸ h.analysis (hid ▸ hfresh) (hscore ▸ p.score?_fit v.skills) ?_
    exact ⟨u, howner, ⟨_, hdv, hv.1, hvu⟩, dr, hdr, hr.1⟩

/-- Whatever becomes of a request, the store stays consistent and keeps resumes and vacancies. -/
theorem serve {assistant : Option Assistant} {q : Request} {r : Except Fault q.Answer}
    (h : Consistent issued s) (hfresh : o.freshId ∉ issued) (hactor : actor.userId ≠ "")
    (hy : (q.program assistant o actor).Yields s r s') :
    Consistent (o.freshId :: issued) s' ∧ s.Extends s' := by
  cases hq : q.isUpload with
  | false =>
    obtain ⟨s₁, hrec, hchange⟩ := q.yields_program hq hy
    obtain ⟨h₁, he₁⟩ := h.recordings hrec
    cases hchange with
    | refl => exact ⟨h₁.issue _, he₁⟩
    | single hc =>
      obtain ⟨h₂, he₂⟩ := h₁.change hfresh hactor hc
      exact ⟨h₂, he₁.trans he₂⟩
  | true =>
    cases q with
    | ingest resumeId upload =>
      obtain rfl | ⟨existing, text, hfind, hrec⟩ := Profiles.yields_ingest hy
      · exact ⟨h.issue _, .refl _⟩
      have hsame : ∀ d, s.resumes.find? (Document.fits [("resume_id", resumeId)]) = some d →
          d.holds "owner_id" (Profiles.ownerOf actor existing) = true := by
        intro d hd
        have hform := h.resumes d (List.mem_of_find?_eq_some hd)
        obtain ⟨u, hne, hu⟩ := hform.owner
        obtain ⟨e, he, heu⟩ := Resumes.ofDocument_of_isResume hform hu resumeId
        obtain ⟨-, ⟨-, hnone⟩ | ⟨d', e', hd', he', rfl⟩⟩ := Resumes.of_yields_find hfind
        · simp [hnone] at hd
        · obtain rfl := Option.some.inj (hd.symm.trans hd')
          obtain rfl : e = e' := by simpa [he] using he'
          rwa [Profiles.ownerOf_of_ownerId heu hne]
      obtain ⟨h₁, he₁⟩ := h.saved (Profiles.ownerOf_ne_empty hactor existing) hsame
      obtain ⟨h₂, he₂⟩ := h₁.recordings hrec
      exact ⟨h₂.issue _, he₁.trans he₂⟩
    | _ => simp [Request.isUpload] at hq

end Consistent

namespace Session

theorem Step.consistent {σ τ : Session} (h : Step σ τ) (hc : Consistent σ.issued σ.store) :
    Consistent τ.issued τ.store ∧ σ.store.Extends τ.store := by
  cases h with
  | serve hactor hfresh hy => exact hc.serve hfresh hactor hy

theorem consistent_of_steps {σ τ : Session} (h : ReflTransGen Step σ τ)
    (hc : Consistent σ.issued σ.store) :
    Consistent τ.issued τ.store ∧ σ.store.Extends τ.store := by
  induction h with
  | refl => exact ⟨hc, .refl _⟩
  | tail _ hstep ih =>
    obtain ⟨h, he⟩ := hstep.consistent ih.1
    exact ⟨h, ih.2.trans he⟩

theorem Reached.consistent {σ : Session} (h : σ.Reached) : Consistent σ.issued σ.store :=
  (consistent_of_steps h .empty).1

end Session

end Shortlist
