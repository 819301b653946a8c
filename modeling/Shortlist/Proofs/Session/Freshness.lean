import Shortlist.Proofs.Session.Passage

/-! # Which text a profile is made of

Uploads, rebuilds and requests for an analysis of one resume may come at the same time. Their builds
are served one after another, and what stays is the record of the last. That one is made of the text
that its task had got before it waited for its turn, which need not be the text that is there in the
end: an upload may have saved another one meanwhile, and been served before.
-/

namespace Shortlist

open Program Relation Profiles

/-! ## Jobs and their builds -/

/-- Jobs that can build the profile of one resume, by the names of their tasks. -/
structure Rush where
  assistant : Option Assistant
  resumeId : String
  job : String → Job
  builds : ∀ name, (job name).request.buildsFor resumeId = true

namespace Rush

def program (ρ : Rush) (name : String) : Program Unit := (ρ.job name).program ρ.assistant

/-- A task got a text of the resume at some event. Unless the resume was saved since, it still has
that text. -/
def Took (ρ : Rush) (es : List (String × Event)) (s : Store) (name text : String) : Prop :=
  ∃ es₁ event es₂, es = es₁ ++ (name, event) :: es₂ ∧
    event.Gives ρ.resumeId text (ρ.job name).request.isUpload ∧
    ((∀ e ∈ es₂, e.2.effect.saves ρ.resumeId = false) → Resumes.Bears s ρ.resumeId text)

/-- A task that holds the key, with what is left of its build of a text, and the store that its
build so far makes on its own. -/
structure Inside (ρ : Rush) (es : List (String × Event)) (x : Site) (t : Task Unit) (text : String)
    (q : Program ProfileRecord) (s : Store) : Prop where
  program : ∃ rest, (∀ r, (rest r).Idle) ∧
    t.program = (q.andThen (closing ρ.resumeId)).andThen rest
  held : x.place.Holds t.name ρ.resumeId
  took : ρ.Took es x.store t.name text
  replays : ∃ events, events <:+ Scene.eventsOf t.name es ∧
    (build ρ.assistant (ρ.job t.name).occasion ρ.resumeId text).Replays events q s

/-- The task is about to build, once it has the key. -/
def Waiting (ρ : Rush) (es : List (String × Event)) (x : Site) (t : Task Unit) : Prop :=
  ∃ text rest, (∀ r, (rest r).Idle) ∧ t.program =
      (buildAndSave ρ.assistant (ρ.job t.name).occasion ρ.resumeId text).andThen rest ∧
    ρ.Took es x.store t.name text

/-- The task has the key, and has written nothing yet. -/
def Opening (ρ : Rush) (es : List (String × Event)) (x : Site) (t : Task Unit) : Prop :=
  ∃ text, ρ.Inside es x t text
    (build ρ.assistant (ρ.job t.name).occasion ρ.resumeId text) .empty

/-- The task has the key, and what is stored is its record. -/
def Settling (ρ : Rush) (es : List (String × Event)) (x : Site) (t : Task Unit) : Prop :=
  ∃ text q s r, ρ.Inside es x t text q s ∧ Settles ρ.resumeId q ∧ Stored r s ∧
    Last ρ.resumeId x t.name r

inductive Progress (ρ : Rush) (es : List (String × Event)) (x : Site) (t : Task Unit) : Prop where
  | outside {known : Option String}
      (hp : Approaches ρ.assistant (ρ.job t.name).occasion ρ.resumeId
        (ρ.job t.name).request.isUpload known t.program)
      (htook : ∀ text ∈ known, ρ.Took es x.store t.name text)
  | opening (h : ρ.Opening es x t)
  | settling (h : ρ.Settling es x t)

/-- The record that is stored is the last that was written, and a task has made it of a text. -/
structure Built (ρ : Rush) (es : List (String × Event)) (x : Site) (name text : String)
    (r : ProfileRecord) : Prop where
  last : Last ρ.resumeId x name r
  took : ρ.Took es x.store name text
  made : ∃ events, events <:+: Scene.eventsOf name es ∧
    Makes ρ.assistant (ρ.job name).occasion ρ.resumeId text events r

/-- Nothing that matters to a task changes. -/
structure Undisturbed (ρ : Rush) (name : String) (es es' : List (String × Event)) (x x' : Site) :
    Prop where
  events : Scene.eventsOf name es' = Scene.eventsOf name es
  took : ∀ text, ρ.Took es x.store name text → ρ.Took es' x'.store name text
  held : x.place.Holds name ρ.resumeId → x'.place.Holds name ρ.resumeId
  last : x.place.Holds name ρ.resumeId → ∀ r, Last ρ.resumeId x name r → Last ρ.resumeId x' name r

variable {ρ : Rush} {es es' : List (String × Event)} {entry : String × Event} {x x' : Site}
  {t : Task Unit} {s s' : Store} {text : String} {e : Effect}
  {next : Except Fault e.Answer → Program Unit} {answer : Except Fault e.Answer} {name : String}
  {q : Program ProfileRecord}

theorem Took.now {event : Event}
    (hg : event.Gives ρ.resumeId text (ρ.job name).request.isUpload)
    (hb : Resumes.Bears s ρ.resumeId text) : ρ.Took (es ++ [(name, event)]) s name text :=
  ⟨es, event, [], rfl, hg, fun _ => hb⟩

theorem Took.append (h : ρ.Took es s name text)
    (hs : entry.2.effect.saves ρ.resumeId = false → s'.resumes = s.resumes) :
    ρ.Took (es ++ [entry]) s' name text := by
  obtain ⟨es₁, event, es₂, rfl, hg, hb⟩ := h
  refine ⟨es₁, event, es₂ ++ [entry], by simp, hg, fun hnot => ?_⟩
  have hentry := hnot entry (List.mem_append_right _ (List.mem_singleton_self entry))
  obtain ⟨d, hd, hbears⟩ := hb fun e he => hnot e (List.mem_append_left _ he)
  exact ⟨d, (hs hentry).symm ▸ hd, hbears⟩

theorem Inside.frame (h : ρ.Inside es x t text q s) (hu : ρ.Undisturbed t.name es es' x x') :
    ρ.Inside es' x' t text q s :=
  ⟨h.program, hu.held h.held, hu.took text h.took, hu.events ▸ h.replays⟩

theorem Waiting.frame (h : ρ.Waiting es x t) (hu : ρ.Undisturbed t.name es es' x x') :
    ρ.Waiting es' x' t := by
  obtain ⟨text, rest, hrest, hp, htook⟩ := h
  exact ⟨text, rest, hrest, hp, hu.took text htook⟩

theorem Opening.frame (h : ρ.Opening es x t) (hu : ρ.Undisturbed t.name es es' x x') :
    ρ.Opening es' x' t := by
  obtain ⟨text, hin⟩ := h
  exact ⟨text, hin.frame hu⟩

theorem Settling.frame (h : ρ.Settling es x t) (hu : ρ.Undisturbed t.name es es' x x') :
    ρ.Settling es' x' t := by
  obtain ⟨text, q, s, r, hin, hsettles, hr, hlast⟩ := h
  exact ⟨text, q, s, r, hin.frame hu, hsettles, hr, hu.last hin.held r hlast⟩

theorem Progress.frame (h : ρ.Progress es x t) (hu : ρ.Undisturbed t.name es es' x x') :
    ρ.Progress es' x' t := by
  cases h with
  | outside hp htook => exact .outside hp fun text ht => hu.took text (htook text ht)
  | opening h => exact .opening (h.frame hu)
  | settling h => exact .settling (h.frame hu)

theorem Undisturbed.of_bypasses (he : e.Happens t.name x answer x') (hne : name ≠ t.name)
    (hby : Bypasses ρ.resumeId e x x') :
    ρ.Undisturbed name es (es ++ [(t.name, ⟨e, answer⟩)]) x x' where
  events := Scene.eventsOf_append_of_ne hne.symm es ⟨e, answer⟩
  took _ h := h.append hby.resumes
  held h := he.holds hne h
  last _ _ h := h.bypassed hby

theorem Undisturbed.of_held (hx : x.place.Tidy) (ht : x.place.Holds t.name ρ.resumeId)
    (he : e.Happens t.name x answer x') (hne : name ≠ t.name)
    (hsame : x'.store.resumes = x.store.resumes) :
    ρ.Undisturbed name es (es ++ [(t.name, ⟨e, answer⟩)]) x x' where
  events := Scene.eventsOf_append_of_ne hne.symm es ⟨e, answer⟩
  took _ h := h.append fun _ => hsame
  held h := he.holds hne h
  last h := absurd (hx.eq_of_holds h ht) hne

/-! ### The steps of a build -/

theorem Waiting.act (h : ρ.Waiting es x t) (hp : t.program = .perform e next)
    (he : e.Happens t.name x answer x') (hs : Event.succeeded ⟨e, answer⟩ = true) :
    x'.store = x.store ∧ x'.journal = x.journal ∧
      ρ.Opening (es ++ [(t.name, ⟨e, answer⟩)]) x' ⟨t.name, next answer⟩ := by
  obtain ⟨text, rest, hrest, hp', htook⟩ := h
  cases hp.symm.trans hp'
  cases he with
  | granted hw hname hkey hin hfirst =>
    refine ⟨rfl, rfl, text, ⟨rest, hrest, rfl⟩, ?_, htook.append fun _ => rfl, ?_⟩
    · exact hkey ▸ Workplace.holds_letIn hw hname hin hfirst
    · exact ⟨[], List.nil_suffix, .refl _⟩
  | withdrawn => cases hs

theorem Inside.step {e : Effect} {next' : Except Fault e.Answer → Program ProfileRecord}
    {next : Except Fault e.Answer → Program Unit} {answer : Except Fault e.Answer}
    (h : ρ.Inside es x t text (.perform e next') s) (hp : t.program = .perform e next)
    (he : e.Gives s answer s') (hheld : x'.place.Holds t.name ρ.resumeId)
    (hsame : x'.store.resumes = x.store.resumes) :
    ρ.Inside (es ++ [(t.name, ⟨e, answer⟩)]) x' ⟨t.name, next answer⟩ text (next' answer) s' := by
  obtain ⟨rest, hrest, hp'⟩ := h.program
  obtain ⟨events, hrecent, hreplays⟩ := h.replays
  cases hp.symm.trans hp'
  refine ⟨⟨rest, hrest, rfl⟩, hheld, h.took.append fun _ => hsame, events ++ [⟨e, answer⟩], ?_,
    hreplays.step he⟩
  rw [Scene.eventsOf_append_self]
  exact (List.suffix_append_self_iff).mpr hrecent

theorem Inside.write {r : ProfileRecord} {next' : Except Fault Unit → Program ProfileRecord}
    (h : ρ.Inside es x t text (.perform (.store r.write) next') s) (hid : r.resumeId = ρ.resumeId)
    (hsettles : Settles ρ.resumeId (next' (.ok ()))) (hp : t.program = .perform e next)
    (he : e.Happens t.name x answer x') (hs : Event.succeeded ⟨e, answer⟩ = true) :
    x'.store.resumes = x.store.resumes ∧
      ρ.Settling (es ++ [(t.name, ⟨e, answer⟩)]) x' ⟨t.name, next answer⟩ := by
  obtain ⟨rest, hrest, hp'⟩ := h.program
  cases hp.symm.trans hp'
  obtain ⟨rfl, rfl⟩ := he.of_succeeded hs
  have hsame : (x.after t.name r.write).store.resumes = x.store.resumes :=
    resumes_recorded x.store r
  exact ⟨hsame, text, next' (.ok ()), (s.answer r.write).2, r,
    h.step hp (.answered r.write s) h.held hsame, hsettles, stored_recorded s r,
    hid ▸ Last.write x t.name r⟩

theorem Opening.act (h : ρ.Opening es x t) (hp : t.program = .perform e next)
    (he : e.Happens t.name x answer x') (hs : Event.succeeded ⟨e, answer⟩ = true) :
    x'.store.resumes = x.store.resumes ∧
      ρ.Settling (es ++ [(t.name, ⟨e, answer⟩)]) x' ⟨t.name, next answer⟩ := by
  obtain ⟨text, hin⟩ := h
  have hopens := opens_build ρ.assistant (ρ.job t.name).occasion ρ.resumeId text
  cases hq : build ρ.assistant (ρ.job t.name).occasion ρ.resumeId text with
  | done _ =>
    rw [hq] at hopens
    exact hopens.elim
  | perform e' next' =>
    rw [hq] at hin hopens
    cases e' with
    | store c =>
      obtain ⟨⟨r, rfl, hid, -⟩, -, hnext⟩ := hopens
      exact hin.write hid (hnext ()) hp he hs
    | _ => exact hopens.elim

theorem Settling.act (h : ρ.Settling es x t) (hp : t.program = .perform e next)
    (he : e.Happens t.name x answer x') (hs : Event.succeeded ⟨e, answer⟩ = true) :
    x'.store.resumes = x.store.resumes ∧
      (ρ.Settling (es ++ [(t.name, ⟨e, answer⟩)]) x' ⟨t.name, next answer⟩ ∨
        (next answer).Idle ∧
          ∃ text r, ρ.Built (es ++ [(t.name, ⟨e, answer⟩)]) x' t.name text r) := by
  obtain ⟨text, q, s, r, hin, hsettles, hr, hlast⟩ := h
  cases q with
  | done outcome =>
    obtain ⟨rest, hrest, hp'⟩ := hin.program
    obtain ⟨events, hrecent, hreplays⟩ := hin.replays
    cases hp.symm.trans hp'
    cases he with
    | released =>
      have hgrown := Scene.eventsOf_prefix t.name es [(t.name, ⟨.release ρ.resumeId, .ok ()⟩)]
      exact ⟨rfl, .inr ⟨hrest outcome, text, r, ⟨hlast.id, hlast.written, hlast.stored⟩,
        hin.took.append fun _ => rfl, events, hrecent.isInfix.trans hgrown.isInfix,
        hreplays.makes hlast.id hr⟩⟩
  | perform e' next' =>
    cases e' with
    | store c =>
      obtain ⟨⟨r', rfl, hid, -⟩, hdone⟩ := hsettles
      obtain ⟨outcome, hnext⟩ := hdone (.ok ())
      have hsettled : Settles ρ.resumeId (next' (.ok ())) := by
        rw [hnext]
        trivial
      obtain ⟨hsame, hsettling⟩ := hin.write hid hsettled hp he hs
      exact ⟨hsame, .inl hsettling⟩
    | ask sys user =>
      obtain ⟨rest, hrest, hp'⟩ := hin.program
      cases hp.symm.trans hp'
      cases he with
      | replied =>
        exact ⟨rfl, .inl ⟨text, next' answer, s, r,
          hin.step hp (.replied sys user s answer) hin.held rfl, hsettles answer, hr, hlast⟩⟩
    | _ => exact hsettles.elim

/-! ### The steps of a scene -/

inductive Account (ρ : Rush) (s : Store) (es : List (String × Event)) (σ : Scene Unit) : Prop where
  /-- No build has written anything, and whoever saved the resume is about to build. -/
  | untouched (hrecords : σ.journal.filter (·.2.concerns ρ.resumeId) = [])
      (hprofiles : σ.store.profiles = s.profiles)
      (hresumes : σ.store.resumes = s.resumes ∨
        ∃ t ∈ σ.tasks, ρ.Waiting es σ.toSite t ∨ ρ.Opening es σ.toSite t)
  | building {t : Task Unit} (ht : t ∈ σ.tasks) (h : ρ.Settling es σ.toSite t)
  | built {name text : String} {r : ProfileRecord} (h : ρ.Built es σ.toSite name text r)

/-- What every step keeps up on which nothing fails. -/
structure Ordered (ρ : Rush) (s : Store) (es : List (String × Event)) (σ : Scene Unit) : Prop where
  tidy : σ.place.Tidy
  names : ∀ t ∈ σ.tasks, ∀ u ∈ σ.tasks, t.name = u.name → t = u
  progress : ∀ t ∈ σ.tasks, ρ.Progress es σ.toSite t
  account : ρ.Account s es σ

variable {s₀ : Store} {σ : Scene Unit} {program : Program Unit}

theorem Built.bypassed {r : ProfileRecord} (h : ρ.Built es x name text r)
    (hby : Bypasses ρ.resumeId entry.2.effect x x') : ρ.Built (es ++ [entry]) x' name text r where
  last := h.last.bypassed hby
  took := h.took.append hby.resumes
  made := by
    obtain ⟨events, hinfix, hmakes⟩ := h.made
    exact ⟨events, hinfix.trans (Scene.eventsOf_prefix name es [entry]).isInfix, hmakes⟩

namespace Ordered

theorem resume (h : ρ.Ordered s₀ es σ) (he : e.Happens t.name σ.toSite answer x)
    (hother : ∀ name, name ≠ t.name →
      ρ.Undisturbed name es (es ++ [(t.name, ⟨e, answer⟩)]) σ.toSite x)
    (hprogress : ρ.Progress (es ++ [(t.name, ⟨e, answer⟩)]) x ⟨t.name, program⟩)
    (haccount : ρ.Account s₀ (es ++ [(t.name, ⟨e, answer⟩)])
      { x with tasks := Scene.resume t.name program σ.tasks }) :
    ρ.Ordered s₀ (es ++ [(t.name, ⟨e, answer⟩)])
      { x with tasks := Scene.resume t.name program σ.tasks } where
  tidy := he.tidy h.tidy
  names := by
    intro v hv w hw hname
    rcases Scene.of_mem_resume hv with rfl | ⟨hv, hvne⟩ <;>
      rcases Scene.of_mem_resume hw with rfl | ⟨hw, hwne⟩
    · rfl
    · exact absurd hname.symm hwne
    · exact absurd hname hvne
    · exact h.names v hv w hw hname
  progress := by
    intro u hu
    rcases Scene.of_mem_resume hu with rfl | ⟨hu, hne⟩
    · exact hprogress
    · exact (h.progress u hu).frame (hother u.name hne)
  account := haccount

/-- A task that does not settle a record bypasses the records, and the account goes on. If it saved
the resume, it is about to build now, and a task that was about to build still is. -/
theorem resume_bypassing (h : ρ.Ordered s₀ es σ) (ht : t ∈ σ.tasks)
    (he : e.Happens t.name σ.toSite answer x) (hby : Bypasses ρ.resumeId e σ.toSite x)
    (hnot : ¬ ρ.Settling es σ.toSite t)
    (hprogress : ρ.Progress (es ++ [(t.name, ⟨e, answer⟩)]) x ⟨t.name, program⟩)
    (hbuilds : x.store.resumes ≠ σ.store.resumes ∨
        (ρ.Waiting es σ.toSite t ∨ ρ.Opening es σ.toSite t) →
      ρ.Waiting (es ++ [(t.name, ⟨e, answer⟩)]) x ⟨t.name, program⟩ ∨
        ρ.Opening (es ++ [(t.name, ⟨e, answer⟩)]) x ⟨t.name, program⟩) :
    ρ.Ordered s₀ (es ++ [(t.name, ⟨e, answer⟩)])
      { x with tasks := Scene.resume t.name program σ.tasks } := by
  have hother (name : String) (hne : name ≠ t.name) :
      ρ.Undisturbed name es (es ++ [(t.name, ⟨e, answer⟩)]) σ.toSite x :=
    .of_bypasses he hne hby
  refine h.resume he hother hprogress ?_
  cases h.account with
  | untouched hrecords hprofiles hresumes =>
    refine .untouched (hby.records.trans hrecords) (hby.profiles.trans hprofiles) ?_
    by_cases hsame : x.store.resumes = σ.store.resumes
    swap
    · exact .inr ⟨_, Scene.mem_resume ht program, hbuilds (.inl hsame)⟩
    rcases hresumes with hresumes | ⟨u, hu, hu'⟩
    · exact .inl (hsame.trans hresumes)
    right
    by_cases hname : u.name = t.name
    · obtain rfl := h.names u hu t ht hname
      exact ⟨_, Scene.mem_resume ht program, hbuilds (.inr hu')⟩
    · refine ⟨u, Scene.mem_resume_of_ne hu hname program, ?_⟩
      exact hu'.imp (·.frame (hother u.name hname)) (·.frame (hother u.name hname))
  | @building u hu hsettling =>
    have hname : u.name ≠ t.name := by
      intro hname
      obtain rfl := h.names u hu t ht hname
      exact hnot hsettling
    exact .building (Scene.mem_resume_of_ne hu hname program)
      (hsettling.frame (hother u.name hname))
  | built hbuilt => exact .built (hbuilt.bypassed hby)

/-- A task that holds the key and writes a record, or has done so, decides about the account. -/
theorem resume_settling (h : ρ.Ordered s₀ es σ) (ht : t ∈ σ.tasks)
    (he : e.Happens t.name σ.toSite answer x) (hheld : σ.place.Holds t.name ρ.resumeId)
    (hsame : x.store.resumes = σ.store.resumes)
    (hnext : ρ.Settling (es ++ [(t.name, ⟨e, answer⟩)]) x ⟨t.name, program⟩ ∨
      program.Idle ∧ ∃ text r, ρ.Built (es ++ [(t.name, ⟨e, answer⟩)]) x t.name text r) :
    ρ.Ordered s₀ (es ++ [(t.name, ⟨e, answer⟩)])
      { x with tasks := Scene.resume t.name program σ.tasks } := by
  refine h.resume he (fun name hne => .of_held h.tidy hheld he hne hsame) ?_ ?_
  · rcases hnext with hsettling | ⟨hidle, -⟩
    · exact .settling hsettling
    · exact .outside (.idle hidle : Approaches _ _ _ _ none _) nofun
  · rcases hnext with hsettling | ⟨-, text, r, hbuilt⟩
    · exact .building (Scene.mem_resume ht program) hsettling
    · exact .built hbuilt

/-- A task that is not about to build goes on: only saving the resume touches resumes, and then it
is about to build. -/
theorem act_outside (h : ρ.Ordered s₀ es σ) (ht : t ∈ σ.tasks) {known : Option String}
    (happroaches : Approaches ρ.assistant (ρ.job t.name).occasion ρ.resumeId
      (ρ.job t.name).request.isUpload known t.program)
    (htook : ∀ text ∈ known, ρ.Took es σ.store t.name text)
    (hsettling : ¬ ρ.Settling es σ.toSite t) (hopening : ¬ ρ.Opening es σ.toSite t)
    (hwaiting : ¬ ρ.Waiting es σ.toSite t) (hp : t.program = .perform e next)
    (he : e.Happens t.name σ.toSite answer x) (hs : Event.succeeded ⟨e, answer⟩ = true) :
    ρ.Ordered s₀ (es ++ [(t.name, ⟨e, answer⟩)])
      { x with tasks := Scene.resume t.name (next answer) σ.tasks } := by
  have hnot (hsame : x.store.resumes = σ.store.resumes) :
      ¬ (x.store.resumes ≠ σ.store.resumes ∨
        (ρ.Waiting es σ.toSite t ∨ ρ.Opening es σ.toSite t)) := by
    rintro (hn | hn | hn)
    · exact hn hsame
    · exact hwaiting hn
    · exact hopening hn
  cases happroaches.act hp he hs with
  | @waits text rest hknown hp' hrest =>
    exact absurd ⟨text, rest, hrest, hp', htook text hknown⟩ hwaiting
  | goesOn hby hsame hnext =>
    refine h.resume_bypassing ht he hby hsettling (.outside hnext fun text htext => ?_)
      fun hn => absurd hn (hnot hsame)
    exact (htook text htext).append hby.resumes
  | reads hby hgives hbears hsame hnext =>
    refine h.resume_bypassing ht he hby hsettling (.outside hnext fun text htext => ?_)
      fun hn => absurd hn (hnot hsame)
    obtain rfl := Option.some.inj htext
    exact .now hgives hbears
  | @saves text rest hby hgives hbears hnext hrest =>
    have hnow : ρ.Took (es ++ [(t.name, ⟨e, answer⟩)]) x.store t.name text := .now hgives hbears
    have hbuild : Approaches ρ.assistant (ρ.job t.name).occasion ρ.resumeId
        (ρ.job t.name).request.isUpload (some text) (next answer) := hnext ▸ .build hrest
    refine h.resume_bypassing ht he hby hsettling (.outside hbuild fun text' htext => ?_)
      fun _ => .inl ⟨text, rest, hrest, hnext, hnow⟩
    obtain rfl := Option.some.inj htext
    exact hnow

/-- Every successful effect of a task keeps the order. -/
theorem act (h : ρ.Ordered s₀ es σ) (ht : t ∈ σ.tasks) (hp : t.program = .perform e next)
    (he : e.Happens t.name σ.toSite answer x) (hs : Event.succeeded ⟨e, answer⟩ = true) :
    ρ.Ordered s₀ (es ++ [(t.name, ⟨e, answer⟩)])
      { x with tasks := Scene.resume t.name (next answer) σ.tasks } := by
  -- A task may look as if it were at several points; what it holds and has written tells which.
  by_cases hsettling : ρ.Settling es σ.toSite t
  · obtain ⟨hsame, hnext⟩ := hsettling.act hp he hs
    obtain ⟨_, _, _, _, hin, -⟩ := hsettling
    exact h.resume_settling ht he hin.held hsame hnext
  by_cases hopening : ρ.Opening es σ.toSite t
  · obtain ⟨hsame, hnext⟩ := hopening.act hp he hs
    obtain ⟨_, hin⟩ := hopening
    exact h.resume_settling ht he hin.held hsame (.inl hnext)
  by_cases hwaiting : ρ.Waiting es σ.toSite t
  · obtain ⟨hstore, hjournal, hnext⟩ := hwaiting.act hp he hs
    refine h.resume_bypassing ht he ⟨fun _ => ?_, ?_, ?_⟩ hsettling (.opening hnext)
      fun _ => .inr hnext
    · rw [hstore]
    · rw [hstore]
    · rw [hjournal]
  cases h.progress t ht with
  | outside happroaches htook =>
    exact h.act_outside ht happroaches htook hsettling hopening hwaiting hp he hs
  | opening h => exact absurd h hopening
  | settling h => exact absurd h hsettling

theorem begin (h : ρ.Ordered s₀ es σ) (hn : ∀ t ∈ σ.tasks, t.name ≠ name) :
    ρ.Ordered s₀ es { σ with tasks := σ.tasks ++ [⟨name, ρ.program name⟩] } where
  tidy := h.tidy
  names := by
    intro v hv w hw hname
    simp only [List.mem_append, List.mem_singleton] at hv hw
    rcases hv with hv | rfl <;> rcases hw with hw | rfl
    · exact h.names v hv w hw hname
    · exact absurd hname (hn v hv)
    · exact absurd hname.symm (hn w hw)
    · rfl
  progress := by
    intro t ht
    rcases List.mem_append.mp ht with ht | ht
    · exact h.progress t ht
    · rw [List.mem_singleton.mp ht]
      exact .outside (Job.approaches_program (ρ.builds name)) nofun
  account := by
    cases h.account with
    | untouched hrecords hprofiles hresumes =>
      refine .untouched hrecords hprofiles (hresumes.imp_right ?_)
      rintro ⟨t, ht, hbuilds⟩
      exact ⟨t, List.mem_append_left _ ht, hbuilds⟩
    | building ht hsettling => exact .building (List.mem_append_left _ ht) hsettling
    | built hbuilt => exact .built hbuilt

theorem arrive (h : ρ.Ordered s₀ es σ) (hn : Workplace.Absent name σ.place.workers)
    (key : String) : ρ.Ordered s₀ es { σ with place := σ.place.obey name (.start key) } := by
  have hothers (other : String) : ρ.Undisturbed other es es σ.toSite
      { σ.toSite with place := σ.place.obey name (.start key) } :=
    ⟨rfl, fun _ => id, fun hheld => hheld.start hn key, fun _ _ h => ⟨h.1, h.2, h.3⟩⟩
  constructor
  · exact h.tidy.arrive hn key
  · exact h.names
  · exact fun t ht => (h.progress t ht).frame (hothers t.name)
  · cases h.account with
    | untouched hrecords hprofiles hresumes =>
      refine .untouched hrecords hprofiles (hresumes.imp_right ?_)
      rintro ⟨t, ht, hbuilds⟩
      exact ⟨t, ht, hbuilds.imp (·.frame (hothers t.name)) (·.frame (hothers t.name))⟩
    | @building t ht hsettling => exact .building ht (hsettling.frame (hothers t.name))
    | built hbuilt =>
      obtain ⟨hid, hwritten, hstored⟩ := hbuilt.last
      exact .built ⟨⟨hid, hwritten, hstored⟩, hbuilt.took, hbuilt.made⟩

end Ordered

theorem ordered_of_course (h : Scene.Course ρ.program (Scene.opened s₀) es σ)
    (hes : ∀ entry ∈ es, entry.2.succeeded = true) : ρ.Ordered s₀ es σ := by
  induction h with
  | rest => exact ⟨Workplace.tidy_empty, nofun, nofun, .untouched rfl rfl (.inl rfl)⟩
  | begin _ hn ih => exact (ih hes).begin hn
  | arrive _ _ _ hn ih => exact (ih hes).arrive hn _
  | act _ ht hp he ih =>
    refine (ih fun entry hentry => hes entry (List.mem_append_left _ hentry)).act ht hp he ?_
    exact hes _ (List.mem_append_right _ (List.mem_singleton_self _))

/-- Once a record is written, a record stays. -/
theorem Account.exists_last (h : ρ.Account s es σ)
    (hne : σ.journal.filter (·.2.concerns ρ.resumeId) ≠ []) :
    ∃ name r, Last ρ.resumeId σ.toSite name r := by
  cases h with
  | untouched hrecords => exact absurd hrecords hne
  | building ht hsettling =>
    obtain ⟨_, _, _, r, -, -, -, hlast⟩ := hsettling
    exact ⟨_, r, hlast⟩
  | built hbuilt => exact ⟨_, _, hbuilt.last⟩

theorem Waiting.isDone_eq_false (h : ρ.Waiting es x t) : t.program.isDone = false := by
  obtain ⟨text, rest, -, hp, -⟩ := h
  rw [hp]
  rfl

theorem Inside.isDone_eq_false (h : ρ.Inside es x t text q s) : t.program.isDone = false := by
  obtain ⟨rest, -, hp⟩ := h.program
  rw [hp]
  cases q <;> rfl

/-- When all is done on a course on which nothing failed, what is stored is the record that the last
build made, of the text that its task had got. If nothing was built, nothing was saved either. -/
theorem last_build_prevails (h : Scene.Course ρ.program (Scene.opened s₀) es σ)
    (hes : ∀ entry ∈ es, entry.2.succeeded = true)
    (hdone : ∀ t ∈ σ.tasks, t.program.isDone = true) :
    (σ.journal.filter (·.2.concerns ρ.resumeId) = [] ∧ σ.store.profiles = s₀.profiles ∧
      σ.store.resumes = s₀.resumes) ∨
    ∃ name text r, ρ.Built es σ.toSite name text r := by
  cases (ordered_of_course h hes).account with
  | untouched hrecords hprofiles hresumes =>
    refine .inl ⟨hrecords, hprofiles, hresumes.resolve_right ?_⟩
    rintro ⟨t, ht, hwaiting | ⟨text, hin⟩⟩
    · exact Bool.false_ne_true (hwaiting.isDone_eq_false.symm.trans (hdone t ht))
    · exact Bool.false_ne_true (hin.isDone_eq_false.symm.trans (hdone t ht))
  | @building t ht hsettling =>
    obtain ⟨text, q, s, r, hin, -⟩ := hsettling
    exact (Bool.false_ne_true (hin.isDone_eq_false.symm.trans (hdone t ht))).elim
  | built hbuilt => exact .inr ⟨_, _, _, hbuilt⟩

end Rush

/-! ## An outdated profile -/

/-- Whatever the service does, the record of a text without any visible characters says that it is
empty. -/
theorem Profiles.Makes.errorMessage {assistant : Option Assistant} {o : Occasion}
    {resumeId text : String} {es : List Event} {r : ProfileRecord}
    (h : Makes assistant o resumeId text es r) (hes : Calm es)
    (htext : (Text.strip text).isEmpty = true) : r.errorMessage = emptyText := by
  obtain ⟨x, s, htraces, rfl, hr⟩ := h
  obtain ⟨es₁, pending, s₁, es₂, hsettle, hrest, rfl⟩ | ⟨fault, hsettle, -⟩ :=
    exists_of_traces_bind htraces
  swap
  · obtain ⟨hne, -⟩ | ⟨-, -, hnot⟩ := of_traces_settle hsettle
    · cases hne
    · exact absurd hes hnot
  obtain ⟨hpending, -⟩ | ⟨⟨_, hne⟩, -⟩ := of_traces_settle hsettle
  swap
  · cases hne
  obtain rfl := Except.ok.inj hpending
  rw [if_pos htext] at hrest
  obtain ⟨-, rfl⟩ | ⟨-, -, hnot⟩ := of_traces_settle hrest
  · have hfields := toFields_eq_of_stored hr (stored_recorded s₁ _) rfl
    simpa [ProfileRecord.toFields, Fields.get?] using congrArg (Fields.get? "error_message") hfields
  · exact absurd (hes.of_subset (List.subset_append_right es₁ es₂)) hnot

section Overtaken

open Scene Analyses

/-- A resume is taken in twice, at last as an empty file, while it is compared with a vacancy. -/
def overtaken : Rush where
  assistant := none
  resumeId := "r1"
  job name := ⟨noon, recruiter,
    if name = "first" then .ingest "r1" (textFile "Gopher")
    else if name = "second" then .ingest "r1" (textFile "")
    else .createAnalysis "r1" "v1"⟩
  builds name := by
    dsimp only
    split
    · rfl
    split <;> rfl

/-- The third has read the first text when the second saves another, and its build comes last. -/
def aftermath : Scene Unit :=
  (gathered overtaken.program ["first", "second", "third"]
    { Store.empty with vacancies := desk.vacancies }).serveAll
      (List.replicate 4 "first" ++ List.replicate 2 "third" ++ List.replicate 3 "second" ++
        List.replicate 2 "third" ++ List.replicate 3 "first" ++ List.replicate 4 "second" ++
        List.replicate 4 "third")

theorem course_aftermath : ∃ es,
    Course overtaken.program (opened { Store.empty with vacancies := desk.vacancies }) es
      aftermath ∧ (∀ entry ∈ es, entry.2.succeeded = true) ∧
    ∀ t ∈ aftermath.tasks, t.program.isDone = true := by
  have hnames : ["first", "second", "third"].Nodup := by decide
  obtain ⟨es, h, hes⟩ := (course_gathered hnames _).serveAll (fun _ he => by cases he) _
  refine ⟨es, h, hes, List.all_eq_true.mp ?_⟩
  decide +kernel

/-- So it is the record of the third that stays. -/
theorem last_build_prevails_aftermath : ∃ es text r,
    Course overtaken.program (opened { Store.empty with vacancies := desk.vacancies }) es
      aftermath ∧ overtaken.Built es aftermath.toSite "third" text r := by
  obtain ⟨es, h, hes, hdone⟩ := course_aftermath
  have hlast : (aftermath.journal.filter (·.2.concerns "r1")).getLast?.map Prod.fst =
      some "third" := by decide +kernel
  obtain ⟨hnone, -⟩ | ⟨name, text, r, hbuilt⟩ := overtaken.last_build_prevails h hes hdone
  · change aftermath.journal.filter (·.2.concerns "r1") = [] at hnone
    rw [hnone] at hlast
    cases hlast
  · have hwritten : (aftermath.journal.filter (·.2.concerns "r1")).getLast? =
        some (name, r.write) := hbuilt.last.written
    rw [hwritten] at hlast
    obtain rfl : name = "third" := Option.some.inj hlast
    exact ⟨es, text, r, h, hbuilt⟩

/-- It is not the record of a build of the text that the resume has in the end. -/
theorem outdated_profile_stays : ∃ es name r,
    Course overtaken.program (opened { Store.empty with vacancies := desk.vacancies }) es
      aftermath ∧ (∀ entry ∈ es, entry.2.succeeded = true) ∧
    (∀ t ∈ aftermath.tasks, t.program.isDone = true) ∧
    Resumes.Bears aftermath.store "r1" "" ∧ Last "r1" aftermath.toSite name r ∧
    ∀ assistant o text events, Resumes.Bears aftermath.store "r1" text → Calm events →
      ¬ Makes assistant o "r1" text events r := by
  obtain ⟨es, h, hes, hdone⟩ := course_aftermath
  have hwritten : (aftermath.journal.filter (·.2.concerns "r1")).isEmpty = false := by
    decide +kernel
  have hempty : aftermath.store.resumes.all (·.holds "parsed_text" "") = true := by decide +kernel
  have herror : aftermath.store.profiles.all (·.holds "error_message" notConfigured) = true := by
    decide +kernel
  obtain ⟨name, r, hlast⟩ := (overtaken.ordered_of_course h hes).account.exists_last
    (List.isEmpty_eq_false_iff.mp hwritten)
  refine ⟨es, name, r, h, hes, hdone, ?_, hlast, ?_⟩
  · have hany : aftermath.store.resumes.any (·.holds "resume_id" "r1") = true := by decide +kernel
    obtain ⟨d, hd, hid⟩ := List.any_eq_true.mp hany
    exact ⟨d, hd, hid, Document.holds_iff.mp (List.all_eq_true.mp hempty d hd)⟩
  · rintro assistant o text events ⟨d, hd, -, htext⟩ hcalm hmakes
    have hd' := Document.holds_iff.mp (List.all_eq_true.mp hempty d hd)
    obtain rfl : text = "" := by simpa [htext] using hd'
    have hr := List.all_eq_true.mp herror _ (List.mem_of_find?_eq_some hlast.stored)
    have hmessage := hmakes.errorMessage hcalm (by decide)
    simp [Document.holds_iff, ProfileRecord.toFields, Fields.get?, hmessage, emptyText,
      notConfigured] at hr

end Overtaken

end Shortlist
