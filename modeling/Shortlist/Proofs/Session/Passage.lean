import Shortlist.Proofs.Candidate.Blocks
import Shortlist.Proofs.Candidate.Settling
import Shortlist.Proofs.Service.Approach
import Shortlist.Proofs.Session.Records

/-! # What a step does to a resume

What one effect of a task can do to a resume and its record: on the way to a build, at which it may
get the text or save it, and within the build, where the events so far can be replayed without the
other tasks.
-/

namespace Shortlist

open Program Relation Profiles

def Resumes.Bears (s : Store) (resumeId text : String) : Prop :=
  ∃ d ∈ s.resumes, d.holds "resume_id" resumeId = true ∧
    d.get? "parsed_text" = some (.text text)

/-- The events are those of a build of a text, and leave a record. -/
def Profiles.Makes (assistant : Option Assistant) (o : Occasion) (resumeId text : String)
    (es : List Event) (r : ProfileRecord) : Prop :=
  ∃ x s, (build assistant o resumeId text).Traces .empty es x s ∧ r.resumeId = resumeId ∧
    Stored r s

/-! ## Replaying a build -/

section Replay

variable {α : Type} {p : Program α} {s s' : Store} {es : List Event} {e : Effect}
  {next : Except Fault e.Answer → Program α} {answer : Except Fault e.Answer}

theorem Profiles.stored_recorded (s : Store) (r : ProfileRecord) : Stored r (recorded s r) := by
  obtain ⟨ds, hup, he⟩ := exists_recorded s r
  have hfound := hup.find?_eq (holds_resumeId_toFields r) r.resumeId
  rw [if_pos rfl] at hfound
  rw [he]
  exact hfound

theorem Profiles.toFields_eq_of_stored {r r' : ProfileRecord} (h : Stored r s) (h' : Stored r' s)
    (hid : r.resumeId = r'.resumeId) : r.toFields = r'.toFields := by
  rw [Stored, hid] at h
  exact Option.some.inj (h.symm.trans h')

/-- What is left of a program after some events of its own, and the store that it has made. -/
def Program.Replays (p : Program α) (es : List Event) (q : Program α) (s : Store) : Prop :=
  ∀ es' r s', q.Traces s es' r s' → p.Traces .empty (es ++ es') r s'

theorem Program.Replays.refl (p : Program α) : p.Replays [] p .empty := fun _ _ _ h => h

theorem Program.Replays.step (h : p.Replays es (.perform e next) s) (he : e.Gives s answer s') :
    p.Replays (es ++ [⟨e, answer⟩]) (next answer) s' := by
  intro es' r s'' hn
  rw [List.append_assoc]
  exact h _ _ _ (.perform he hn)

theorem Program.Replays.makes {assistant : Option Assistant} {o : Occasion}
    {resumeId text : String} {x : Except Fault ProfileRecord} {r : ProfileRecord}
    (h : (build assistant o resumeId text).Replays es (.done x) s) (hid : r.resumeId = resumeId)
    (hr : Stored r s) : Makes assistant o resumeId text es r := by
  have htraces := h [] x s (.done x s)
  rw [List.append_nil] at htraces
  exact ⟨x, s, htraces, hid, hr⟩

end Replay

/-! ## What happens to a resume -/

section Steps

variable {α : Type} {x x' : Site} {e : Effect} {name resumeId text : String} {p : Program α}
  {next : Except Fault e.Answer → Program α} {answer : Except Fault e.Answer}
  {r : ProfileRecord} {s s' : Store}

theorem Resumes.bears_saving (s : Store) (resumeId text owner : String)
    (filename : Option String) :
    Bears (s.answer (saving resumeId text owner filename)).2 resumeId text := by
  obtain ⟨d, hd⟩ := find?_saved_self s resumeId text owner filename
  exact ⟨_, List.mem_of_find?_eq_some hd, Document.fits_singleton ▸ List.find?_some hd,
    get?_text_save⟩

/-- The records of a resume stay, and so do resumes unless this one is saved. -/
structure Bypasses (resumeId : String) (e : Effect) (x x' : Site) : Prop where
  resumes : e.saves resumeId = false → x'.store.resumes = x.store.resumes
  profiles : x'.store.profiles = x.store.profiles
  records : x'.journal.filter (·.2.concerns resumeId) = x.journal.filter (·.2.concerns resumeId)

theorem Bypasses.refl (resumeId : String) (e : Effect) (x : Site) : Bypasses resumeId e x x :=
  ⟨fun _ => rfl, rfl, rfl⟩

theorem filter_journal_after (x : Site) (name resumeId : String) {q : StoreCall}
    (hq : q.Spares .profiles) :
    (x.after name q).journal.filter (·.2.concerns resumeId) =
      x.journal.filter (·.2.concerns resumeId) := by
  rw [Site.after]
  split
  · next hw =>
    have hnot : q.concerns resumeId = false := by
      cases q with
      | replace c f d =>
        cases c with
        | profiles => exact absurd rfl (hq hw)
        | _ => rfl
      | _ => rfl
    simp [List.filter_append, hnot]
  · rfl

theorem Program.Idle.act (h : p.Idle) (hp : p = .perform e next) (he : e.Happens name x answer x')
    (resumeId : String) : x'.store.resumes = x.store.resumes ∧ Bypasses resumeId e x x' ∧
      (next answer).Idle := by
  subst hp
  cases e with
  | store q =>
    obtain ⟨⟨hr, hp⟩, hnext⟩ := h
    have hresumes : (x.after name q).store.resumes = x.store.resumes := hr.documents_answer x.store
    have hafter : Bypasses resumeId (.store q) x (x.after name q) :=
      ⟨fun _ => hresumes, hp.documents_answer x.store, filter_journal_after x name resumeId hp⟩
    cases he with
    | failed => exact ⟨rfl, .refl .., hnext _⟩
    | _ => exact ⟨hresumes, hafter, hnext _⟩
  | ask sys user =>
    cases he with
    | replied => exact ⟨rfl, .refl .., h answer⟩
  | _ => exact h.elim

theorem Effect.Happens.of_succeeded {q : StoreCall} {answer : Except Fault q.Answer}
    (he : Effect.Happens name (.store q) x answer x')
    (hs : Event.succeeded ⟨.store q, answer⟩ = true) :
    answer = .ok (x.store.answer q).1 ∧ x' = x.after name q := by
  cases he with
  | answered => exact ⟨rfl, rfl⟩
  | failed => cases hs
  | interrupted => cases hs

theorem Resumes.get?_of_readText {d : Document} {resume : Resume}
    (h : readText resumeId d = .valid resume) :
    d.get? "parsed_text" = some (.text resume.text) := by
  obtain ⟨v, hv, htext⟩ := Validation.required_eq_valid_iff.mp
    (Resume.ofFields_eq_valid_iff.mp h).2.1
  obtain rfl := Validation.text_eq_valid_iff.mp htext
  have hfield : fieldOf d "parsed_text" = .text resume.text := by simpa [Fields.get?] using hv
  cases hd : d.get? "parsed_text" with
  | none => simp [fieldOf, hd] at hfield
  | some v => simpa [fieldOf, hd] using hfield

theorem Resumes.bears_of_yields_get {owner : Option String} {resume : Resume}
    (h : (get resumeId owner).Yields s (.ok resume) s') :
    ∃ d, s.resumes.find? (Document.fits (Filter.scoped [("resume_id", resumeId)] owner)) = some d ∧
      d.get? "parsed_text" = some (.text resume.text) ∧ resume.resumeId = resumeId ∧
      Bears s resumeId resume.text := by
  obtain ⟨-, d, hd, hread⟩ := of_yields_get h
  have hfit := List.find?_some hd
  rw [Document.fits_scoped, Bool.and_eq_true, Document.fits_singleton] at hfit
  exact ⟨d, hd, get?_of_readText hread, resumeId_of_readText hread, d,
    List.mem_of_find?_eq_some hd, hfit.1, get?_of_readText hread⟩

inductive Advances (assistant : Option Assistant) (o : Occasion) (resumeId : String)
    (uploads : Bool) (known : Option String) (p : Program Unit) (event : Event) (x x' : Site)
    (next : Program Unit) : Prop where
  /-- The program waits for its turn. -/
  | waits {text : String} {rest : Except Fault ProfileRecord → Program Unit}
      (hknown : known = some text)
      (hp : p = (buildAndSave assistant o resumeId text).andThen rest) (hrest : ∀ r, (rest r).Idle)
  | goesOn (hby : Bypasses resumeId event.effect x x')
      (hsame : x'.store.resumes = x.store.resumes)
      (hnext : Approaches assistant o resumeId uploads known next)
  | reads {text : String} (hby : Bypasses resumeId event.effect x x')
      (hgives : event.Gives resumeId text uploads) (hbears : Resumes.Bears x'.store resumeId text)
      (hsame : x'.store.resumes = x.store.resumes)
      (hnext : Approaches assistant o resumeId uploads (some text) next)
  /-- Saving the resume is followed by the build. -/
  | saves {text : String} {rest : Except Fault ProfileRecord → Program Unit}
      (hby : Bypasses resumeId event.effect x x')
      (hgives : event.Gives resumeId text uploads) (hbears : Resumes.Bears x'.store resumeId text)
      (hnext : next = (buildAndSave assistant o resumeId text).andThen rest)
      (hrest : ∀ r, (rest r).Idle)

theorem Approaches.act {assistant : Option Assistant} {o : Occasion} {uploads : Bool}
    {known : Option String} {p : Program Unit} {next : Except Fault e.Answer → Program Unit}
    (h : Approaches assistant o resumeId uploads known p) (hp : p = .perform e next)
    (he : e.Happens name x answer x') (hs : Event.succeeded ⟨e, answer⟩ = true) :
    Advances assistant o resumeId uploads known p ⟨e, answer⟩ x x' (next answer) := by
  cases h with
  | idle hidle =>
    obtain ⟨hresumes, hby, hnext⟩ := hidle.act hp he resumeId
    exact .goesOn hby hresumes (.idle hnext)
  | look honce hq hf =>
    obtain ⟨rfl, -, r, hnext, -⟩ := honce.act hq hp he
    rw [hnext]
    exact .goesOn (.refl ..) rfl (hf r)
  | @read owner f hu hfault hf =>
    subst hu
    obtain ⟨rfl, rfl, r, hnext, hyields⟩ := (Resumes.once_get resumeId owner).act rfl hp he
    rw [hnext]
    cases r with
    | error fault => exact .goesOn (.refl ..) rfl (.idle (hfault fault))
    | ok resume =>
      obtain ⟨d, hd, htext, hid, hbears⟩ := Resumes.bears_of_yields_get hyields
      obtain ⟨rfl, -⟩ := he.of_succeeded hs
      have hfound : (x'.store.answer (.findOne .resumes
          (Filter.scoped [("resume_id", resumeId)] owner))).1 = some d := hd
      refine .reads (.refl ..) ?_ hbears rfl (hf resume hid)
      rw [hfound]
      exact .read htext
  | @save text owner filename next' rest hu hrest hfault hnext =>
    subst hu
    cases hp
    obtain ⟨rfl, rfl⟩ := he.of_succeeded hs
    have hspares : (Resumes.saving resumeId text owner filename).Spares .profiles := nofun
    refine .saves ⟨fun hnot => ?_, ?_, ?_⟩ (.saved owner filename) ?_ hnext hrest
    · simp [Effect.saves, Resumes.saving] at hnot
    · exact hspares.documents_answer x.store
    · exact filter_journal_after x name resumeId hspares
    · exact Resumes.bears_saving x.store resumeId text owner filename
  | build hrest => exact .waits rfl rfl hrest

/-- The last record of a resume that was written is a task's, and is what is stored. -/
structure Last (resumeId : String) (x : Site) (name : String) (r : ProfileRecord) : Prop where
  id : r.resumeId = resumeId
  written : (x.journal.filter (·.2.concerns resumeId)).getLast? = some (name, r.write)
  stored : Stored r x.store

theorem Last.bypassed (h : Last resumeId x name r) (hs : Bypasses resumeId e x x') :
    Last resumeId x' name r where
  id := h.id
  written := hs.records ▸ h.written
  stored := by
    rw [Stored, hs.profiles]
    exact h.stored

theorem Last.write (x : Site) (name : String) (r : ProfileRecord) :
    Last r.resumeId (x.after name r.write) name r where
  id := rfl
  written := by
    have hjournal : (x.after name r.write).journal = x.journal ++ [(name, r.write)] := rfl
    simp [hjournal, List.filter_append]
  stored := stored_recorded x.store r

end Steps

end Shortlist
