import Shortlist.Proofs.Program.Course
import Shortlist.Proofs.Service.Upload

/-! # Taking over resumes

An upload looks the resume up, and saves it with another call. In between, others may have saved
it. So the owner of a resume is safe from the moment on when no upload is left that looked the
resume up before it had this owner and that has still to save it, and not before.
-/

namespace Shortlist

open Program Validation

def StoreCall.Spares (c : Collection) (q : StoreCall) : Prop :=
  q.isWrite = true → q.collection ≠ c

theorem StoreCall.Spares.documents_answer {c : Collection} {q : StoreCall} (h : q.Spares c)
    (s : Store) : (s.answer q).2.documents c = s.documents c := by
  cases hq : q.isWrite with
  | false => rw [s.answer_of_read hq]
  | true => exact s.documents_answer_of_ne c (h hq).symm

/-- What taking in a file comes to once the resume is looked up. -/
def Profiles.takeIn (assistant : Option Assistant) (o : Occasion) (actor : Actor)
    (resumeId : String) (upload : Upload) (existing : Option Resume) : Program ProfileRecord := do
  let owner := ownerOf actor existing
  if actor.scope.any (· ≠ owner) then .refuse (unknownResume resumeId)
  else
    let text ← Program.ofExcept upload.text
    Resumes.save ⟨resumeId, text, some owner, upload.filename⟩
    buildAndSave assistant o resumeId text

theorem Profiles.ingest_eq (assistant : Option Assistant) (o : Occasion) (actor : Actor)
    (resumeId : String) (upload : Upload) : ingest assistant o actor resumeId upload =
      Resumes.find resumeId >>= takeIn assistant o actor resumeId upload := rfl

/-! ## Requests that leave resumes alone -/

section Spares

variable {α : Type} {assistant : Option Assistant} {o : Occasion} {actor : Actor}

theorem Program.Looks.spares {p : Program α} {c : Collection} (hp : p.ReadOnly) :
    p.Calls (StoreCall.Spares c) :=
  hp.calls.mono fun q hq hw => by simp [hq] at hw

theorem Profiles.spares_buildAndSave (assistant : Option Assistant) (o : Occasion)
    (resumeId text : String) :
    (buildAndSave assistant o resumeId text).Calls (StoreCall.Spares .resumes) := by
  refine (calls_buildAndSave assistant o resumeId text).mono ?_
  rintro _ ⟨r, -, rfl⟩ -
  simp [StoreCall.collection]

theorem Analyses.spares_create (resumeId vacancyId : String) :
    (create assistant o actor resumeId vacancyId).Calls (StoreCall.Spares .resumes) := by
  refine (Vacancies.looks_get o vacancyId _ (by rfl)).spares.bind fun v => ?_
  refine (Resumes.looks_get resumeId _ (by rfl)).spares.bind fun resume => ?_
  have hresolve : (resolveRecord assistant o resume).Calls (StoreCall.Spares .resumes) := by
    refine (Resumes.looks_findRecord o _ (by rfl)).spares.bind fun found => ?_
    cases found with
    | some record => trivial
    | none => exact Profiles.spares_buildAndSave assistant o _ _
  refine hresolve.bind fun record => Calls.ite trivial (Calls.bind ?_ fun _ => ?_)
  · exact (calls_enrich _ _ _).mono fun _ hq => hq.elim
  · refine Calls.bind (calls_call _ ?_) fun _ => trivial
    simp [StoreCall.Spares, StoreCall.collection]

theorem Request.spares_program {q : Request} (hq : q.isUpload = false) :
    (q.program assistant o actor).Calls (StoreCall.Spares .resumes) := by
  have hcall {op : Operation} {c : StoreCall} (hc : c.collection ≠ .resumes) :
      (call op c).Calls (StoreCall.Spares .resumes) := calls_call op fun _ => hc
  cases q with
  | ingest resumeId upload => simp [isUpload] at hq
  | rebuildProfile resumeId =>
    refine (Resumes.looks_get resumeId _ (by rfl)).spares.bind fun resume => ?_
    exact Profiles.spares_buildAndSave assistant o resumeId resume.text
  | getProfile resumeId => exact (Profiles.readOnly_get o actor resumeId).spares
  | createVacancy title description skills =>
    refine Calls.ite trivial (Calls.bind (hcall ?_) fun _ => trivial)
    simp [StoreCall.collection]
  | getVacancy vacancyId => exact (Vacancies.looks_get o vacancyId _ (by rfl)).spares
  | listVacancies limit offset =>
    exact (Vacancies.looks_list o _ limit offset (by rfl)).spares
  | updateSkills vacancyId skills =>
    refine Calls.bind (hcall ?_) fun found => (Vacancies.looks_ofFound o vacancyId found).calls
    simp [StoreCall.collection]
  | createAnalysis resumeId vacancyId => exact Analyses.spares_create resumeId vacancyId
  | getAnalysis analysisId =>
    exact (Analyses.looks_getFor o actor analysisId (by rfl)).spares
  | listAnalyses limit offset =>
    exact (Analyses.looks_list o _ limit offset (by rfl)).spares
  | listByVacancy vacancyId limit offset =>
    exact (Analyses.readOnly_listByVacancyFor o actor vacancyId limit offset).spares
  | vacancyReport vacancyId =>
    exact (Analyses.readOnly_vacancyReport o actor vacancyId).spares
  | deleteAnalysis analysisId =>
    refine (Analyses.looks_getFor o actor analysisId (by rfl)).spares.bind fun _ => ?_
    refine Calls.bind (Calls.bind (hcall ?_) fun _ => trivial) fun _ => trivial
    simp [StoreCall.collection]

end Spares

/-! ## Owners -/

namespace Resumes

def OwnedBy (s : Store) (resumeId owner : String) : Prop :=
  ∃ d, s.resumes.find? (Document.fits [("resume_id", resumeId)]) = some d ∧
    d.holds "owner_id" owner = true

theorem ownedBy_iff {s : Store} {id u : String} : OwnedBy s id u ↔
    (s.resumes.find? (Document.fits [("resume_id", id)])).any (·.holds "owner_id" u) = true := by
  rw [OwnedBy, Option.any_eq_true]

instance (s : Store) (id u : String) : Decidable (OwnedBy s id u) :=
  decidable_of_iff _ ownedBy_iff.symm

def saving (resumeId text owner : String) (filename : Option String) : StoreCall :=
  .setFields .resumes [("resume_id", resumeId)]
    (savedFields ⟨resumeId, text, some owner, filename⟩)

variable {s : Store} {id resumeId text owner u : String} {filename : Option String}

theorem OwnedBy.eq (h : OwnedBy s id u) (h' : OwnedBy s id owner) : owner = u := by
  obtain ⟨d, hd, hu⟩ := h
  obtain ⟨d', hd', howner⟩ := h'
  obtain rfl : d = d' := Option.some.inj (hd.symm.trans hd')
  exact Document.eq_of_holds howner hu

theorem ownedBy_saving (s : Store) (resumeId text owner : String) (filename : Option String) :
    OwnedBy (s.answer (saving resumeId text owner filename)).2 resumeId owner := by
  obtain ⟨d, hd⟩ := find?_saved_self s resumeId text owner filename
  exact ⟨_, hd, holds_owner_save⟩

theorem OwnedBy.saving_of_ne (h : OwnedBy s id u) (hne : id ≠ resumeId) :
    OwnedBy (s.answer (saving resumeId text owner filename)).2 id u := by
  obtain ⟨d, hd, hu⟩ := h
  exact ⟨d, (find?_saved_of_ne hne s).trans hd, hu⟩

theorem ownerId_of_ofDocument {d : Document} {r : Resume} (h : ofDocument resumeId d = .valid r)
    (hu : d.holds "owner_id" u = true) : r.ownerId = some u := by
  have hown := (Resume.ofFields_eq_valid_iff.mp h).2.2.1
  have hget : Fields.get? "owner_id" [("resume_id", Value.text resumeId),
      ("text", if (fieldOf d "parsed_text").isFalsy then .text "" else fieldOf d "parsed_text"),
      ("owner_id", fieldOf d "owner_id"), ("filename", fieldOf d "filename")] =
        some (.text u) := by
    simp [Fields.get?, fieldOf, Document.holds_iff.mp hu]
  rw [optional_eq_valid_iff, hget] at hown
  obtain ⟨hne, -⟩ | ⟨v, hv, hown⟩ := hown
  · cases hne
  · obtain rfl := Option.some.inj hv
    rw [optionalText_eq_valid_iff] at hown
    cases hr : r.ownerId with
    | none => simp [hr, Value.ofOption] at hown
    | some u' => simpa [hr, Value.ofOption, eq_comm] using hown

end Resumes

/-! ## Jobs under way -/

section Jobs

variable {α : Type} {p : Program α} {assistant : Option Assistant} {jobs : String → Job}
  {s : Store} {σ τ : Scene Unit} {es : List (String × Event)} {id owner u : String}

/-- The program is about to save a resume for an owner, and leaves resumes alone after that. -/
def Program.SavesFor (resumeId owner : String) : Program α → Prop
  | .perform (.store q) next =>
    (∃ text filename, q = Resumes.saving resumeId text owner filename) ∧
      ∀ answer, (next answer).Calls (StoreCall.Spares .resumes)
  | _ => False

def Effect.saves (resumeId : String) : Effect → Bool
  | .store (.setFields .resumes f _) => f = [("resume_id", resumeId)]
  | _ => false

theorem StoreCall.Spares.saves_eq_false {q : StoreCall} (h : q.Spares .resumes) (id : String) :
    (Effect.store q).saves id = false := by
  cases q with
  | setFields c f fs =>
    cases c with
    | resumes => exact absurd rfl (h rfl)
    | _ => rfl
  | _ => rfl

def Program.savesNext (resumeId : String) : Program α → Bool
  | .perform e _ => e.saves resumeId
  | .done _ => false

theorem Program.SavesFor.savesNext (h : p.SavesFor id owner) : p.savesNext id = true := by
  cases p with
  | done _ => exact h.elim
  | perform e next =>
    cases e with
    | store q =>
      obtain ⟨⟨text, filename, rfl⟩, -⟩ := h
      exact decide_eq_true rfl
    | _ => exact h.elim

theorem Program.Calls.not_savesFor (h : p.Calls (StoreCall.Spares .resumes)) :
    ¬ p.SavesFor id owner := by
  intro hs
  cases p with
  | done _ => exact hs
  | perform e next =>
    cases e with
    | store q =>
      obtain ⟨⟨text, filename, rfl⟩, -⟩ := hs
      exact h.1 _ rfl rfl rfl
    | _ => exact hs

theorem Program.SavesFor.eq {id' owner' : String} (h : p.SavesFor id owner)
    (h' : p.SavesFor id' owner') : id = id' ∧ owner = owner' := by
  cases p with
  | done _ => exact h.elim
  | perform e next =>
    cases e with
    | store q =>
      obtain ⟨⟨text, filename, rfl⟩, -⟩ := h
      obtain ⟨⟨text', filename', he⟩, -⟩ := h'
      simp only [Resumes.saving, Resumes.savedFields, StoreCall.setFields.injEq, List.cons.injEq,
        Prod.mk.injEq] at he
      simp_all
    | _ => exact h.elim

inductive Job.Stage (assistant : Option Assistant) (j : Job) : Program Unit → Prop where
  | looking {resumeId : String} {upload : Upload} (hj : j.request = .ingest resumeId upload) :
      Stage assistant j (j.program assistant)
  /-- Only an administrator saves for somebody else. -/
  | saving {resumeId owner : String} {p : Program Unit} (hp : p.SavesFor resumeId owner)
      (ho : j.actor.isAdmin = true ∨ owner = j.actor.userId) : Stage assistant j p
  | rest {p : Program Unit} (hp : p.Calls (StoreCall.Spares .resumes)) : Stage assistant j p

theorem Job.stage_program (assistant : Option Assistant) (j : Job) :
    j.Stage assistant (j.program assistant) := by
  cases hq : j.request.isUpload with
  | false => exact .rest ((Request.spares_program hq).andThen fun _ => trivial)
  | true =>
    cases hr : j.request with
    | ingest resumeId upload => exact .looking hr
    | _ =>
      rw [hr] at hq
      cases hq

/-- Nobody begins with saving. -/
theorem Job.not_savesFor_program {j : Job} : ¬ (j.program assistant).SavesFor id owner := by
  cases hq : j.request.isUpload with
  | false =>
    exact ((Request.spares_program hq).andThen fun _ => trivial : (j.program assistant).Calls
      (StoreCall.Spares .resumes)).not_savesFor
  | true =>
    cases hr : j.request with
    | ingest resumeId upload =>
      rw [Job.program, hr]
      rintro ⟨⟨text, filename, he⟩, -⟩
      cases he
    | _ =>
      rw [hr] at hq
      cases hq

/-- Once it knows the resume, an upload saves it for the owner that it has or gets, unless there is
nothing to save or the owner is somebody else. -/
theorem Job.stage_takeIn (assistant : Option Assistant) (j : Job) (resumeId : String)
    (upload : Upload) (existing : Option Resume) {f : Except Fault ProfileRecord → Program Unit}
    (hf : ∀ r, (f r).Calls (StoreCall.Spares .resumes)) :
    ((Profiles.takeIn assistant j.occasion j.actor resumeId upload existing).andThen f).Calls
        (StoreCall.Spares .resumes) ∨
      ((Profiles.takeIn assistant j.occasion j.actor resumeId upload existing).andThen f).SavesFor
          resumeId (Profiles.ownerOf j.actor existing) ∧
        (j.actor.isAdmin = true ∨ Profiles.ownerOf j.actor existing = j.actor.userId) := by
  rw [Profiles.takeIn]
  split
  · exact .inl (hf _)
  next hscope =>
  cases htext : upload.text with
  | error fault => exact .inl (hf _)
  | ok text =>
    refine .inr ⟨⟨⟨text, upload.filename, rfl⟩, fun answer => ?_⟩, ?_⟩
    · cases answer with
      | error fault => exact hf _
      | ok _ => exact (Profiles.spares_buildAndSave assistant j.occasion resumeId text).andThen hf
    · cases hadmin : j.actor.isAdmin with
      | true => exact .inl rfl
      | false =>
        have hown : j.actor.userId = Profiles.ownerOf j.actor existing := by
          simpa [Actor.scope, hadmin] using hscope
        exact .inr hown.symm

variable {j : Job} {name : String} {x x' : Site} {e : Effect} {p : Program Unit}
  {next : Except Fault e.Answer → Program Unit} {answer : Except Fault e.Answer}

theorem Profiles.ownerOf_of_yields_find {resumeId : String} {existing : Option Resume}
    (h : (Resumes.find resumeId).Yields s (.ok existing) s)
    (howned : Resumes.OwnedBy s resumeId u) (hu : u ≠ "") :
    Profiles.ownerOf j.actor existing = u := by
  obtain ⟨d, hd, howner⟩ := howned
  obtain ⟨-, ⟨-, hnone⟩ | ⟨d', r, hd', hread, rfl⟩⟩ := Resumes.of_yields_find h
  · cases hnone.symm.trans hd
  · obtain rfl := Option.some.inj (hd.symm.trans hd')
    exact Profiles.ownerOf_of_ownerId (Resumes.ownerId_of_ofDocument hread howner) hu

inductive Job.Does (j : Job) (p : Program Unit) (e : Effect) (x x' : Site) (rest : Program Unit) :
    Prop where
  | spares (hsame : x'.store.resumes = x.store.resumes) (hnot : ∀ id, e.saves id = false)
      (hrest : rest.Calls (StoreCall.Spares .resumes))
  /-- It looks a resume up that is then to be saved, for its owner if it has one. -/
  | looks {resumeId owner : String} (hx : x' = x) (hnot : ∀ id, e.saves id = false)
      (hrest : rest.SavesFor resumeId owner)
      (ho : j.actor.isAdmin = true ∨ owner = j.actor.userId)
      (hfound : ∀ u, u ≠ "" → Resumes.OwnedBy x.store resumeId u → owner = u)
  | saves {resumeId owner text : String} {filename : Option String}
      (he : e = .store (Resumes.saving resumeId text owner filename))
      (hp : p.SavesFor resumeId owner) (ho : j.actor.isAdmin = true ∨ owner = j.actor.userId)
      (hstore : x'.store = x.store ∨
        x'.store = (x.store.answer (Resumes.saving resumeId text owner filename)).2)
      (hrest : rest.Calls (StoreCall.Spares .resumes))

theorem Job.Stage.act (h : j.Stage assistant p) (hp : p = .perform e next)
    (he : e.Happens name x answer x') : j.Does p e x x' (next answer) := by
  cases h with
  | @looking resumeId upload hj =>
    rw [Job.program, hj] at hp
    have hp' := (bind_andThen (Resumes.find resumeId) (Profiles.takeIn assistant j.occasion j.actor
      resumeId upload) fun r => .done (r.map fun _ => ())).symm.trans hp
    obtain ⟨rfl, rfl, r, hnext, hyields⟩ := (Resumes.once_find resumeId).act rfl hp' he
    rw [hnext]
    cases r with
    | error fault => exact .spares rfl (fun _ => rfl) trivial
    | ok existing =>
      obtain hspares | ⟨hsaves, ho⟩ := j.stage_takeIn assistant resumeId upload existing
        (f := fun r => .done (r.map fun _ => ())) fun _ => trivial
      · exact .spares rfl (fun _ => rfl) hspares
      · refine .looks rfl (fun _ => rfl) hsaves ho fun u hu howned => ?_
        exact Profiles.ownerOf_of_yields_find hyields howned hu
  | @saving resumeId owner _ hsaves ho =>
    subst hp
    cases e with
    | store q =>
      obtain ⟨⟨text, filename, rfl⟩, hrest⟩ := id hsaves
      refine .saves rfl hsaves ho ?_ (hrest answer)
      cases he with
      | answered => exact .inr rfl
      | failed => exact .inl rfl
      | interrupted => exact .inr rfl
    | _ => exact hsaves.elim
  | rest hrest =>
    subst hp
    refine .spares ?_ (fun id => ?_) (hrest.2 answer)
    · cases he with
      | answered q => exact (hrest.1 q rfl).documents_answer x.store
      | interrupted q => exact (hrest.1 q rfl).documents_answer x.store
      | _ => rfl
    · cases e with
      | store q => exact (hrest.1 q rfl).saves_eq_false id
      | _ => rfl

theorem Job.Stage.stage_next (h : j.Stage assistant p) (hp : p = .perform e next)
    (he : e.Happens name x answer x') : j.Stage assistant (next answer) := by
  cases h.act hp he with
  | spares _ _ hrest => exact .rest hrest
  | looks _ _ hrest ho => exact .saving hrest ho
  | saves _ _ _ _ hrest => exact .rest hrest

/-- Every task is on its way through its job. -/
def Scene.Staged (assistant : Option Assistant) (jobs : String → Job) (σ : Scene Unit) : Prop :=
  ∀ t ∈ σ.tasks, (jobs t.name).Stage assistant t.program

theorem Scene.Course.staged (h : Scene.Course (fun name => (jobs name).program assistant) σ es τ)
    (hσ : σ.Staged assistant jobs) : τ.Staged assistant jobs := by
  induction h with
  | rest => exact hσ
  | begin _ _ ih =>
    intro t ht
    rcases List.mem_append.mp ht with ht | ht
    · exact ih t ht
    · rw [List.mem_singleton.mp ht]
      exact Job.stage_program assistant _
  | arrive _ _ _ _ ih => exact ih
  | act _ ht hp he ih =>
    intro u hu
    rcases of_mem_resume hu with rfl | ⟨hu, -⟩
    · exact (ih _ ht).stage_next hp he
    · exact ih u hu

/-- The resume with an id belongs to an owner, and all that are about to save it save it for this
owner. -/
structure Scene.Keeps (id u : String) (σ : Scene Unit) : Prop where
  owned : Resumes.OwnedBy σ.store id u
  saves : ∀ t ∈ σ.tasks, ∀ owner, t.program.SavesFor id owner → owner = u

/-- A step of a task keeps the owner, and only an administrator or the owner saves. -/
theorem Job.Stage.keeps (h : j.Stage assistant p) (hp : p = .perform e next)
    (he : e.Happens name x answer x') (hu : u ≠ "") (howned : Resumes.OwnedBy x.store id u)
    (hsaves : ∀ owner, p.SavesFor id owner → owner = u) :
    Resumes.OwnedBy x'.store id u ∧ (∀ owner, (next answer).SavesFor id owner → owner = u) ∧
      (e.saves id = true → j.actor.isAdmin = true ∨ j.actor.userId = u) := by
  cases h.act hp he with
  | spares hsame hnot hrest =>
    refine ⟨?_, fun owner hs => absurd hs hrest.not_savesFor, fun hs => ?_⟩
    · rwa [Resumes.OwnedBy, hsame]
    · rw [hnot] at hs
      cases hs
  | looks hx hnot hrest ho hfound =>
    subst hx
    refine ⟨howned, fun owner hs => ?_, fun hs => ?_⟩
    · obtain ⟨rfl, rfl⟩ := hrest.eq hs
      exact hfound u hu howned
    · rw [hnot] at hs
      cases hs
  | @saves resumeId owner text filename he' hp' ho hstore hrest =>
    subst he'
    refine ⟨?_, fun owner' hs => absurd hs hrest.not_savesFor, fun hs => ?_⟩
    · rcases hstore with hstore | hstore
      · rwa [hstore]
      · rw [hstore]
        by_cases hid : id = resumeId
        · subst hid
          rw [← hsaves owner hp']
          exact Resumes.ownedBy_saving x.store id text owner filename
        · exact howned.saving_of_ne hid
    · obtain rfl : resumeId = id := by simpa [Effect.saves, Resumes.saving] using hs
      obtain rfl := hsaves owner hp'
      exact ho.imp_right Eq.symm

/-- As long as all that are about to save the resume save it for its owner, that stays so, and
nobody else but an administrator saves it. -/
theorem Scene.Course.keeps (h : Scene.Course (fun name => (jobs name).program assistant) σ es τ)
    (hσ : σ.Staged assistant jobs) (hu : u ≠ "") (hkeeps : σ.Keeps id u) :
    τ.Keeps id u ∧ ∀ entry ∈ es, entry.2.effect.saves id = true →
      (jobs entry.1).actor.isAdmin = true ∨ (jobs entry.1).actor.userId = u := by
  induction h with
  | rest => exact ⟨hkeeps, fun _ he => by cases he⟩
  | @begin _ τ name _ _ ih =>
    refine ⟨⟨ih.1.owned, fun t ht owner hs => ?_⟩, ih.2⟩
    rcases List.mem_append.mp ht with ht | ht
    · exact ih.1.saves t ht owner hs
    · rw [List.mem_singleton.mp ht] at hs
      exact absurd hs Job.not_savesFor_program
  | arrive _ _ _ _ ih => exact ⟨⟨ih.1.owned, ih.1.saves⟩, ih.2⟩
  | @act _ τ t e next answer x h ht hp he ih =>
    obtain ⟨howned, hnext, hevent⟩ :=
      (h.staged hσ t ht).keeps hp he hu ih.1.owned (ih.1.saves t ht)
    refine ⟨⟨howned, fun v hv => ?_⟩, fun entry hentry => ?_⟩
    · rcases of_mem_resume hv with rfl | ⟨hv, -⟩
      · exact hnext
      · exact ih.1.saves v hv
    · rcases List.mem_append.mp hentry with hentry | hentry
      · exact ih.2 entry hentry
      · rw [List.mem_singleton.mp hentry]
        exact hevent

/-- A resume keeps its owner, and nobody else but an administrator saves it, on every way on from a
scene if and only if none of the tasks there is about to save it for somebody else. -/
theorem owner_kept_iff
    (h : Scene.Course (fun name => (jobs name).program assistant) (Scene.opened s) es σ)
    (hu : u ≠ "") (howned : Resumes.OwnedBy σ.store id u) :
    (∀ es' τ, Scene.Course (fun name => (jobs name).program assistant) σ es' τ →
      Resumes.OwnedBy τ.store id u ∧ ∀ entry ∈ es', entry.2.effect.saves id = true →
        (jobs entry.1).actor.isAdmin = true ∨ (jobs entry.1).actor.userId = u) ↔
      ∀ t ∈ σ.tasks, ∀ owner, t.program.SavesFor id owner → owner = u := by
  constructor
  · intro hkept t ht owner hs
    cases hp : t.program with
    | done _ =>
      rw [hp] at hs
      exact hs.elim
    | perform e next =>
      rw [hp] at hs
      cases e with
      | store q =>
        obtain ⟨⟨text, filename, rfl⟩, -⟩ := hs
        have hsaved : Scene.Course (fun name => (jobs name).program assistant) σ _ _ :=
          .act .rest ht hp (.answered _ σ.toSite)
        exact (hkept _ _ hsaved).1.eq (Resumes.ownedBy_saving σ.store id text owner filename)
      | _ => exact hs.elim
  · intro hsaves es' τ hcourse
    have hstaged : σ.Staged assistant jobs := h.staged fun _ ht => by cases ht
    obtain ⟨hkeeps, hevents⟩ := hcourse.keeps hstaged hu ⟨howned, hsaves⟩
    exact ⟨hkeeps.owned, hevents⟩

end Jobs

/-! ## Two uploads at once -/

section Rivals

open Scene

def textFile (text : String) : Upload := ⟨some "cv.txt", text.toUTF8.toList, .ok none, .ok []⟩

/-- Everybody takes in a file for the same resume; its text is their name. -/
def applicant (name : String) : Job :=
  ⟨⟨⟨0, some 0⟩, ""⟩, ⟨name, false⟩, .ingest "r1" (textFile name)⟩

/-- Two of them, before they look the resume up. -/
def lobby : Scene Unit :=
  gathered (fun name => (applicant name).program none) ["alice", "bob"] .empty

theorem course_lobby (names : List String) : ∃ es,
    Course (fun name => (applicant name).program none) (opened .empty) es
      (lobby.serveAll names) := by
  have hnames : ["alice", "bob"].Nodup := by decide
  obtain ⟨es, h, -⟩ := (course_gathered hnames .empty).serveAll (fun _ he => by cases he) names
  exact ⟨es, h⟩

/-- The first has saved the resume before the second looks it up. -/
def settledLobby : Scene Unit := lobby.serveAll ["alice", "alice"]

/-- So it is hers for good. -/
theorem owner_kept_iff_settledLobby : Resumes.OwnedBy settledLobby.store "r1" "alice" ∧
    ∀ es τ, Course (fun name => (applicant name).program none) settledLobby es τ →
      Resumes.OwnedBy τ.store "r1" "alice" := by
  obtain ⟨es₀, h⟩ := course_lobby ["alice", "alice"]
  have howned : Resumes.OwnedBy settledLobby.store "r1" "alice" := by decide +kernel
  refine ⟨howned, fun es τ hcourse => ?_⟩
  refine ((owner_kept_iff h (by decide) howned).mpr (fun t ht owner hs => ?_) es τ hcourse).1
  have hnobody : settledLobby.tasks.all (fun t => !t.program.savesNext "r1") = true := by
    decide +kernel
  simpa [hs.savesNext] using List.all_eq_true.mp hnobody t ht

/-- Both have looked the resume up before the first saves it. -/
def raceLobby : Scene Unit := lobby.serveAll ["alice", "bob", "alice"]

/-- Then it is the second's in the end, text and all. -/
theorem owner_changes : ∃ es, Course (fun name => (applicant name).program none) (opened .empty) es
      raceLobby ∧ Resumes.OwnedBy raceLobby.store "r1" "alice" ∧
    ∃ es', Course (fun name => (applicant name).program none) raceLobby es'
      (raceLobby.serve "bob") ∧ Resumes.OwnedBy (raceLobby.serve "bob").store "r1" "bob" ∧
    raceLobby.store.resumes.all (·.holds "parsed_text" "alice") = true ∧
    (raceLobby.serve "bob").store.resumes.all (·.holds "parsed_text" "bob") = true := by
  obtain ⟨es, h⟩ := course_lobby ["alice", "bob", "alice"]
  obtain ⟨es', h', -⟩ := (Course.rest : Course (fun name => (applicant name).program none) raceLobby
    [] raceLobby).serve (fun _ he => by cases he) "bob"
  exact ⟨es, h, by decide +kernel, es', h', by decide +kernel, by decide +kernel,
    by decide +kernel⟩

end Rivals

end Shortlist
