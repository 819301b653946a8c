import Shortlist.Proofs.Service.Takeover

/-! # On the way to a build

Uploads, rebuilds and requests for an analysis of one resume all get at its text before they wait
for their turn to build its profile: an upload has just saved the text, the others have read it.
Neither before nor after the build do they touch profile records or locks.
-/

namespace Shortlist

open Program

/-! ## Idle programs -/

namespace Program

variable {α β : Type} {p : Program α}

/-- The program leaves resumes, profile records and locks alone. -/
def Idle : Program α → Prop
  | done _ => True
  | perform (.store q) next =>
    (q.Spares .resumes ∧ q.Spares .profiles) ∧ ∀ answer, (next answer).Idle
  | perform (.ask ..) next => ∀ answer, (next answer).Idle
  | perform (.acquire _) _ => False
  | perform (.release _) _ => False

theorem Idle.andThen {f : Except Fault α → Program β} (hp : p.Idle) (hf : ∀ r, (f r).Idle) :
    (p.andThen f).Idle := by
  induction p with
  | done r => exact hf r
  | perform e next ih =>
    cases e with
    | store q => exact ⟨hp.1, fun answer => ih answer (hp.2 answer)⟩
    | ask x y => exact fun answer => ih answer (hp answer)
    | _ => exact hp.elim

theorem Idle.bind {f : α → Program β} (hp : p.Idle) (hf : ∀ a, (f a).Idle) : (p >>= f).Idle := by
  refine Idle.andThen hp fun r => ?_
  cases r with
  | ok a => exact hf a
  | error fault => trivial

theorem Idle.map (f : α → β) (hp : p.Idle) : (f <$> p).Idle := Idle.bind hp fun _ => trivial

theorem Idle.ite {c : Prop} [Decidable c] {q : Program α} (hp : p.Idle) (hq : q.Idle) :
    (if c then p else q).Idle := by
  split
  · exact hp
  · exact hq

theorem Idle.handle {h : Fault → Program α} (hp : p.Idle) (hh : ∀ fault, (h fault).Idle) :
    (p.handle h).Idle := by
  refine Idle.andThen hp fun r => ?_
  cases r with
  | ok a => trivial
  | error fault => exact Idle.ite (hh fault) trivial

end Program

namespace Analyses

theorem idle_enrich (assistant : Option Assistant) (v : Vacancy) (p : Profile) (fit : Fit Float) :
    (enrich assistant v p fit).Idle := by
  cases assistant with
  | none => trivial
  | some a =>
    have hnarrate : (narrate v p fit).Idle := by
      refine Idle.bind (fun _ => trivial) fun reply => ?_
      exact Idle.bind (p := ofExcept _) trivial fun narrative => Idle.ite trivial trivial
    exact (hnarrate.map _).handle fun _ => trivial

theorem idle_insert (a : Analysis) : (insert a).Idle := by
  refine ⟨?_, fun _ => trivial⟩
  constructor <;> simp [StoreCall.Spares, StoreCall.collection]

end Analyses

/-! ## Getting at a text -/

/-- What gives a task the text of a resume: an upload saves it, all others read it. -/
inductive Event.Gives (resumeId text : String) : Bool → Event → Prop where
  | read {owner : Option String} {d : Document} (hd : d.get? "parsed_text" = some (.text text)) :
      Gives resumeId text false
        ⟨.store (.findOne .resumes (Filter.scoped [("resume_id", resumeId)] owner)), .ok (some d)⟩
  | saved (owner : String) (filename : Option String) :
      Gives resumeId text true ⟨.store (Resumes.saving resumeId text owner filename), .ok ()⟩

/-- The program gets at a text of a resume, unless it has one, and then builds the profile from it,
if it does not leave it at that. -/
inductive Approaches (assistant : Option Assistant) (o : Occasion) (resumeId : String)
    (uploads : Bool) : Option String → Program Unit → Prop where
  | idle {text : Option String} {p : Program Unit} (hp : p.Idle) :
      Approaches assistant o resumeId uploads text p
  | look {β : Type} {text : Option String} {p : Program β} {q : StoreCall}
      {f : Except Fault β → Program Unit} (hp : p.Once q) (hq : q.isWrite = false)
      (hf : ∀ r, Approaches assistant o resumeId uploads text (f r)) :
      Approaches assistant o resumeId uploads text (p.andThen f)
  | read {owner : Option String} {f : Except Fault Resume → Program Unit}
      (hu : uploads = false) (hfault : ∀ fault, (f (.error fault)).Idle)
      (hf : ∀ resume, resume.resumeId = resumeId →
        Approaches assistant o resumeId uploads (some resume.text) (f (.ok resume))) :
      Approaches assistant o resumeId uploads none ((Resumes.get resumeId owner).andThen f)
  | save {text owner : String} {filename : Option String}
      {next : Except Fault Unit → Program Unit} {rest : Except Fault ProfileRecord → Program Unit}
      (hu : uploads = true) (hrest : ∀ r, (rest r).Idle)
      (hfault : ∀ fault, (next (.error fault)).Idle)
      (hnext : next (.ok ()) = (Profiles.buildAndSave assistant o resumeId text).andThen rest) :
      Approaches assistant o resumeId uploads none
        (.perform (.store (Resumes.saving resumeId text owner filename)) next)
  | build {text : String} {rest : Except Fault ProfileRecord → Program Unit}
      (hrest : ∀ r, (rest r).Idle) :
      Approaches assistant o resumeId uploads (some text)
        ((Profiles.buildAndSave assistant o resumeId text).andThen rest)

/-- The request is one that can build the profile of a resume. -/
def Request.buildsFor (resumeId : String) : Request → Bool
  | ingest id _ => id = resumeId
  | rebuildProfile id => id = resumeId
  | createAnalysis id _ => id = resumeId
  | _ => false

section Approach

variable {assistant : Option Assistant} {o : Occasion} {actor : Actor} {resumeId : String}

theorem Profiles.approaches_ingest (upload : Upload)
    {f : Except Fault ProfileRecord → Program Unit} (hf : ∀ r, (f r).Idle) :
    Approaches assistant o resumeId true none
      ((ingest assistant o actor resumeId upload).andThen f) := by
  rw [ingest_eq, bind_andThen]
  refine .look (Resumes.once_find resumeId) rfl fun r => ?_
  cases r with
  | error fault => exact .idle (hf _)
  | ok existing =>
    dsimp only
    rw [takeIn]
    split
    · exact .idle (hf _)
    cases upload.text with
    | error fault => exact .idle (hf _)
    | ok text => exact .save rfl hf (fun _ => hf _) rfl

theorem Profiles.approaches_rebuild {f : Except Fault ProfileRecord → Program Unit}
    (hf : ∀ r, (f r).Idle) :
    Approaches assistant o resumeId false none
      ((rebuild assistant o actor resumeId).andThen f) := by
  rw [rebuild, bind_andThen]
  exact .read rfl (fun _ => hf _) fun _ _ => .build hf

theorem Analyses.approaches_resolveRecord {resume : Resume} (hid : resume.resumeId = resumeId)
    {f : Except Fault ProfileRecord → Program Unit} (hf : ∀ r, (f r).Idle) :
    Approaches assistant o resumeId false (some resume.text)
      ((resolveRecord assistant o resume).andThen f) := by
  subst hid
  rw [resolveRecord, bind_andThen]
  refine .look (Resumes.once_findRecord o resume.resumeId) rfl fun r => ?_
  cases r with
  | error fault => exact .idle (hf _)
  | ok found =>
    cases found with
    | some record => exact .idle (hf _)
    | none => exact .build hf

theorem Analyses.approaches_create (vacancyId : String) {f : Except Fault Analysis → Program Unit}
    (hf : ∀ r, (f r).Idle) :
    Approaches assistant o resumeId false none
      ((create assistant o actor resumeId vacancyId).andThen f) := by
  rw [create, bind_andThen]
  refine .look (Vacancies.once_get o vacancyId _) rfl fun r => ?_
  cases r with
  | error fault => exact .idle (hf _)
  | ok v =>
    dsimp only
    rw [bind_andThen]
    refine .read rfl (fun _ => hf _) fun resume hid => ?_
    dsimp only
    rw [bind_andThen]
    refine approaches_resolveRecord hid fun r => ?_
    cases r with
    | error fault => exact hf _
    | ok record =>
      refine Idle.andThen (Idle.ite trivial (Idle.bind (idle_enrich _ _ _ _) fun _ => ?_)) hf
      exact (idle_insert _).bind fun _ => trivial

theorem Job.approaches_program {j : Job} (hj : j.request.buildsFor resumeId = true) :
    Approaches assistant j.occasion resumeId j.request.isUpload none (j.program assistant) := by
  rw [Job.program]
  cases hr : j.request with
  | ingest id upload =>
    obtain rfl : id = resumeId := by simpa [hr, Request.buildsFor] using hj
    exact Profiles.approaches_ingest upload fun _ => trivial
  | rebuildProfile id =>
    obtain rfl : id = resumeId := by simpa [hr, Request.buildsFor] using hj
    exact Profiles.approaches_rebuild fun _ => trivial
  | createAnalysis id vacancyId =>
    obtain rfl : id = resumeId := by simpa [hr, Request.buildsFor] using hj
    exact Analyses.approaches_create vacancyId fun _ => trivial
  | _ =>
    rw [hr] at hj
    cases hj

end Approach

end Shortlist
