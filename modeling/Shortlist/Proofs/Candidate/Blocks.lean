import Mathlib.Logic.Function.Basic
import Shortlist.Candidate.Build
import Shortlist.Proofs.Program.Interleaving

/-! # Builds side by side

However many profiles are built at the same time, the records that get written for a resume fall
into blocks, one after another. A block is the work of one build: a pending record and, if the build
gets that far, a record that is ok or failed.
-/

namespace Shortlist

open Program Relation

/-! ## Blocks -/

def ProfileRecord.write (r : ProfileRecord) : StoreCall :=
  .replace .profiles [("resume_id", r.resumeId)] r.toFields

def StoreCall.concerns (resumeId : String) : StoreCall → Bool
  | .replace .profiles f _ => f = [("resume_id", resumeId)]
  | _ => false

structure Block where
  /-- The task that builds. -/
  name : String
  pending : ProfileRecord
  outcome : Option ProfileRecord

def Block.entries (b : Block) : List (String × StoreCall) :=
  (b.name, b.pending.write) :: (b.outcome.map fun r => (b.name, r.write)).toList

/-- A pending record of a resume comes first, and what follows is not pending any more. -/
structure Block.Proper (resumeId : String) (b : Block) : Prop where
  pending : b.pending.resumeId = resumeId ∧ b.pending.status = .pending
  outcome : ∀ r ∈ b.outcome, r.resumeId = resumeId ∧ (r.status = .ok ∨ r.status = .failed)

/-- What was written about a resume falls into these blocks, each by another task. -/
structure Recorded (resumeId : String) (journal : List (String × StoreCall))
    (bs : List Block) : Prop where
  written : journal.filter (·.2.concerns resumeId) = bs.flatMap Block.entries
  named : (bs.map Block.name).Nodup
  proper : ∀ b ∈ bs, b.Proper resumeId

@[simp] theorem concerns_write (resumeId : String) (r : ProfileRecord) :
    r.write.concerns resumeId = decide (r.resumeId = resumeId) := by
  simp [ProfileRecord.write, StoreCall.concerns]

namespace Recorded

variable {resumeId name : String} {journal : List (String × StoreCall)} {bs : List Block}
  {b : Block} {r r' : ProfileRecord}

theorem mem_of_block (h : Recorded resumeId journal bs) (hb : b ∈ bs) :
    (b.name, b.pending.write) ∈ journal := by
  have hmem : (b.name, b.pending.write) ∈ journal.filter (·.2.concerns resumeId) := by
    rw [h.written]
    exact List.mem_flatMap.mpr ⟨b, hb, List.mem_cons_self⟩
  exact (List.mem_filter.mp hmem).1

theorem other (h : Recorded resumeId journal bs) (hne : r.resumeId ≠ resumeId) :
    Recorded resumeId (journal ++ [(name, r.write)]) bs where
  written := by simp [List.filter_append, h.written, hne]
  named := h.named
  proper := h.proper

theorem pending (h : Recorded resumeId journal bs) (hn : ∀ e ∈ journal, e.1 ≠ name)
    (hid : r.resumeId = resumeId) (hr : r.status = .pending) :
    Recorded resumeId (journal ++ [(name, r.write)]) (bs ++ [⟨name, r, none⟩]) where
  written := by simp [List.filter_append, h.written, hid, Block.entries]
  named := by
    rw [List.map_append, List.nodup_append]
    refine ⟨h.named, List.nodup_singleton _, ?_⟩
    rintro a ha c hc rfl
    obtain ⟨b, hb, rfl⟩ := List.mem_map.mp ha
    exact hn _ (h.mem_of_block hb) (List.mem_singleton.mp hc)
  proper := by
    intro b hb
    rcases List.mem_append.mp hb with hb | hb
    · exact h.proper b hb
    · obtain rfl := List.mem_singleton.mp hb
      exact ⟨⟨hid, hr⟩, fun r' hr' => by cases hr'⟩

theorem outcome (h : Recorded resumeId journal (bs ++ [⟨name, r, none⟩]))
    (hid : r'.resumeId = resumeId) (hr' : r'.status = .ok ∨ r'.status = .failed) :
    Recorded resumeId (journal ++ [(name, r'.write)]) (bs ++ [⟨name, r, some r'⟩]) where
  written := by simp [List.filter_append, h.written, hid, Block.entries]
  named := by simpa using h.named
  proper := by
    intro b hb
    rcases List.mem_append.mp hb with hb | hb
    · exact h.proper b (List.mem_append_left _ hb)
    · obtain rfl := List.mem_singleton.mp hb
      have hpending := (h.proper ⟨name, r, none⟩ (by simp)).pending
      exact ⟨hpending, fun s hs => Option.some.inj hs ▸ ⟨hid, hr'⟩⟩

end Recorded

/-! ## What a build writes -/

namespace Profiles

variable {α : Type} {resumeId : String} {o : Occasion} {r : ProfileRecord}
  {status : ProfileStatus} {error : String} {profile : Profile}

/-- The program stores at most one more record of a resume, which is ok or failed. -/
def Settles (resumeId : String) : Program α → Prop
  | .done _ => True
  | .perform (.store q) next =>
    (∃ r : ProfileRecord, q = r.write ∧ r.resumeId = resumeId ∧
      (r.status = .ok ∨ r.status = .failed)) ∧ ∀ answer, ∃ x, next answer = .done x
  | .perform (.ask ..) next => ∀ answer, Settles resumeId (next answer)
  | .perform (.acquire _) _ => False
  | .perform (.release _) _ => False

/-- The program stores a pending record of a resume, and goes on if that succeeds. -/
def Opens (resumeId : String) : Program α → Prop
  | .perform (.store q) next =>
    (∃ r : ProfileRecord, q = r.write ∧ r.resumeId = resumeId ∧ r.status = .pending) ∧
      (∀ fault, ∃ x, next (.error fault) = .done x) ∧
      ∀ answer, Settles resumeId (next (.ok answer))
  | _ => False

theorem settles_ite {c : Prop} [Decidable c] {p q : Program α} (hp : Settles resumeId p)
    (hq : Settles resumeId q) : Settles resumeId (if c then p else q) := by
  split
  · exact hp
  · exact hq

theorem settles_settle (hid : r.resumeId = resumeId) (hs : status = .ok ∨ status = .failed) :
    Settles resumeId (settle o r status error profile) := by
  refine ⟨⟨_, rfl, hid, hs⟩, fun answer => ?_⟩
  cases answer with
  | ok _ => exact ⟨_, rfl⟩
  | error _ => exact ⟨_, rfl⟩

theorem settles_conclude (hid : r.resumeId = resumeId) (reply : Option String) :
    Settles resumeId (conclude o r reply) := by
  rw [conclude]
  split
  · exact settles_ite (settles_settle hid (.inr rfl)) (settles_settle hid (.inl rfl))
  · exact settles_ite (settles_settle hid (.inr rfl)) trivial
  · trivial

theorem settles_inquire_bind {text : String} {f : Except String (Option String) → Program α}
    (hf : ∀ x, Settles resumeId (f x)) : Settles resumeId (inquire text >>= f) := by
  intro answer
  cases answer with
  | ok reply => exact hf (.ok reply)
  | error fault =>
    change Settles resumeId (Program.bind (if fault.isError then _ else _) f)
    split
    · exact hf (.error fault.text)
    · trivial

theorem opens_settle_bind {f : ProfileRecord → Program ProfileRecord}
    (hid : r.resumeId = resumeId) (hs : status = .pending)
    (hf : ∀ r : ProfileRecord, r.resumeId = resumeId → Settles resumeId (f r)) :
    Opens resumeId (settle o r status error profile >>= f) := by
  let settled : ProfileRecord :=
    { r with status, errorMessage := error, profile, updatedAt := o.now }
  exact ⟨⟨settled, rfl, hid, hs⟩, fun _ => ⟨_, rfl⟩, fun _ => hf settled hid⟩

theorem opens_build (assistant : Option Assistant) (o : Occasion) (resumeId text : String) :
    Opens resumeId (build assistant o resumeId text) := by
  rw [build]
  refine opens_settle_bind rfl rfl fun r hr => ?_
  have hgiveUp (reason : String) : Settles resumeId (giveUp o r reason) :=
    settles_settle hr (.inr rfl)
  dsimp only
  generalize Text.strip text = trimmed
  refine settles_ite (hgiveUp emptyText) (settles_ite (hgiveUp notConfigured) ?_)
  refine settles_inquire_bind fun x => ?_
  cases x with
  | ok reply => exact settles_conclude hr reply
  | error reason => exact hgiveUp reason

/-! ## Builds under way -/

def closing (resumeId : String) (outcome : Except Fault α) : Program α :=
  .perform (.release resumeId) fun _ => .done outcome

inductive Stage (β : String → List Block) (x : Site) (t : Task α) : Prop where
  | outside {resumeId : String} {p : Program α} (hp : t.program = holding resumeId p)
      (ho : Opens resumeId p) (hsilent : ∀ e ∈ x.journal, e.1 ≠ t.name)
  | opening {resumeId : String} {p : Program α} (hp : t.program = p.andThen (closing resumeId))
      (ho : Opens resumeId p) (hheld : x.place.Holds t.name resumeId)
      (hsilent : ∀ e ∈ x.journal, e.1 ≠ t.name)
  /-- The last block is this task's, and not finished. -/
  | settling {resumeId : String} {p : Program α} {bs : List Block} {r : ProfileRecord}
      (hp : t.program = p.andThen (closing resumeId)) (hs : Settles resumeId p)
      (hheld : x.place.Holds t.name resumeId) (hlast : β resumeId = bs ++ [⟨t.name, r, none⟩])
  | closing {resumeId : String} {outcome : Except Fault α}
      (hp : t.program = closing resumeId outcome)
  | ended {outcome : Except Fault α} (hp : t.program = .done outcome)

structure Orderly (β : String → List Block) (σ : Scene α) : Prop where
  tidy : σ.place.Tidy
  /-- Whoever wrote something is still known. -/
  known : ∀ e ∈ σ.journal, ∃ t ∈ σ.tasks, t.name = e.1
  staged : ∀ t ∈ σ.tasks, Stage β σ.toSite t
  recorded : ∀ resumeId, Recorded resumeId σ.journal (β resumeId)
  records : ∀ e ∈ σ.journal, ∃ resumeId, e.2.concerns resumeId = true

variable {β β' : String → List Block} {σ : Scene α} {x x' : Site} {t : Task α} {name : String}
  {program : Program α} {e : Effect} {answer : Except Fault e.Answer} {bs : List Block}

/-- A step of another task does not affect how far a task has got. -/
theorem Stage.frame (h : Stage β x t) (he : e.Happens name x answer x') (hne : t.name ≠ name)
    (hβ : ∀ resumeId, x.place.Holds t.name resumeId → β' resumeId = β resumeId) :
    Stage β' x' t := by
  have hsilent' : (∀ e ∈ x.journal, e.1 ≠ t.name) → ∀ e ∈ x'.journal, e.1 ≠ t.name := by
    intro hsilent entry hentry
    rcases he.mem_journal hentry with hentry | hentry
    · exact hsilent entry hentry
    · exact hentry ▸ hne.symm
  cases h with
  | outside hp ho hsilent => exact .outside hp ho (hsilent' hsilent)
  | opening hp ho hheld hsilent => exact .opening hp ho (he.holds hne hheld) (hsilent' hsilent)
  | settling hp hs hheld hlast =>
    exact .settling hp hs (he.holds hne hheld) ((hβ _ hheld).trans hlast)
  | closing hp => exact .closing hp
  | ended hp => exact .ended hp

namespace Orderly

theorem resume (h : Orderly β σ) (ht : t ∈ σ.tasks) (he : e.Happens t.name σ.toSite answer x)
    (hβ : ∀ resumeId, β' resumeId ≠ β resumeId → σ.place.Holds t.name resumeId)
    (hstage : Stage β' x ⟨t.name, program⟩)
    (hrecorded : ∀ resumeId, Recorded resumeId x.journal (β' resumeId))
    (hrecords : ∀ e ∈ x.journal, ∃ resumeId, e.2.concerns resumeId = true) :
    Orderly β' { x with tasks := Scene.resume t.name program σ.tasks } where
  tidy := he.tidy h.tidy
  known := by
    have hkept : ∀ u ∈ σ.tasks, ∃ u' ∈ Scene.resume t.name program σ.tasks, u'.name = u.name := by
      intro u hu
      refine ⟨_, List.mem_map_of_mem hu, ?_⟩
      split
      · next hn => exact hn.symm
      · rfl
    intro entry hentry
    rcases he.mem_journal hentry with hentry | hentry
    · obtain ⟨u, hu, hn⟩ := h.known entry hentry
      obtain ⟨u', hu', hn'⟩ := hkept u hu
      exact ⟨u', hu', hn'.trans hn⟩
    · obtain ⟨u', hu', hn'⟩ := hkept t ht
      exact ⟨u', hu', hn'.trans hentry.symm⟩
  staged := by
    intro u hu
    rcases Scene.of_mem_resume hu with rfl | ⟨hu, hne⟩
    · exact hstage
    · refine (h.staged u hu).frame he hne fun resumeId hheld => ?_
      by_contra hchanged
      exact hne (h.tidy.eq_of_holds hheld (hβ resumeId hchanged))
  recorded := hrecorded
  records := hrecords

theorem resume_silent (h : Orderly β σ) (ht : t ∈ σ.tasks)
    (he : e.Happens t.name σ.toSite answer x) (hx : x.journal = σ.journal)
    (hstage : Stage β x ⟨t.name, program⟩) :
    Orderly β { x with tasks := Scene.resume t.name program σ.tasks } :=
  h.resume ht he (fun _ hne => absurd rfl hne) hstage (hx ▸ h.recorded) (hx ▸ h.records)

theorem resume_write (h : Orderly β σ) (ht : t ∈ σ.tasks) {r : ProfileRecord}
    {answer : Except Fault Unit}
    (he : Effect.Happens t.name (.store r.write) σ.toSite answer (σ.toSite.after t.name r.write))
    (hheld : σ.place.Holds t.name r.resumeId)
    (hbs : Recorded r.resumeId (σ.journal ++ [(t.name, r.write)]) bs)
    (hstage : Stage (Function.update β r.resumeId bs) (σ.toSite.after t.name r.write)
      ⟨t.name, program⟩) :
    Orderly (Function.update β r.resumeId bs)
      { σ.toSite.after t.name r.write with
        tasks := Scene.resume t.name program σ.tasks } := by
  refine h.resume ht he ?_ hstage ?_ ?_
  · intro resumeId hne
    obtain rfl : resumeId = r.resumeId := by
      by_contra hid
      exact hne (Function.update_of_ne hid bs β)
    exact hheld
  · intro resumeId
    by_cases hid : resumeId = r.resumeId
    · subst hid
      rw [Function.update_self]
      exact hbs
    · rw [Function.update_of_ne hid]
      exact (h.recorded resumeId).other (Ne.symm hid)
  · intro entry hentry
    rcases List.mem_append.mp hentry with hentry | hentry
    · exact h.records entry hentry
    · obtain rfl := List.mem_singleton.mp hentry
      exact ⟨r.resumeId, by simp⟩

theorem begin (h : Orderly β σ) (hn : ∀ t ∈ σ.tasks, t.name ≠ name) {resumeId : String}
    {p : Program α} (hp : Opens resumeId p) :
    Orderly β { σ with tasks := σ.tasks ++ [⟨name, holding resumeId p⟩] } where
  tidy := h.tidy
  known entry hentry := by
    obtain ⟨t, ht, hname⟩ := h.known entry hentry
    exact ⟨t, List.mem_append_left _ ht, hname⟩
  staged t ht := by
    rcases List.mem_append.mp ht with ht | ht
    · exact h.staged t ht
    · obtain rfl := List.mem_singleton.mp ht
      refine .outside rfl hp fun entry hentry => ?_
      obtain ⟨t, ht, hname⟩ := h.known entry hentry
      exact hname ▸ hn t ht
  recorded := h.recorded
  records := h.records

theorem arrive (h : Orderly β σ) (hn : Workplace.Absent name σ.place.workers) (key : String) :
    Orderly β { σ with place := σ.place.obey name (.start key) } where
  tidy := h.tidy.arrive hn key
  known := h.known
  staged t ht := by
    cases h.staged t ht with
    | outside hp ho hsilent => exact .outside hp ho hsilent
    | opening hp ho hheld hsilent => exact .opening hp ho (hheld.start hn key) hsilent
    | settling hp hs hheld hlast => exact .settling hp hs (hheld.start hn key) hlast
    | closing hp => exact .closing hp
    | ended hp => exact .ended hp
  recorded := h.recorded
  records := h.records

theorem act_opening (h : Orderly β σ) (ht : t ∈ σ.tasks) {resumeId : String} {p : Program α}
    {next : Except Fault e.Answer → Program α} (ho : Opens resumeId p)
    (hheld : σ.place.Holds t.name resumeId) (hsilent : ∀ e ∈ σ.journal, e.1 ≠ t.name)
    (hp : .perform e next = p.andThen (Profiles.closing resumeId))
    (he : e.Happens t.name σ.toSite answer x) :
    ∃ β', Orderly β' { x with tasks := Scene.resume t.name (next answer) σ.tasks } := by
  cases p with
  | done _ => exact ho.elim
  | perform e' next' =>
    cases e' with
    | store q =>
      obtain ⟨⟨r, rfl, rfl, hr⟩, hfault, hanswer⟩ := ho
      cases hp
      have hbs := (h.recorded r.resumeId).pending hsilent rfl hr
      cases he with
      | answered =>
        exact ⟨_, h.resume_write ht (.answered _ _) hheld hbs
          (.settling rfl (hanswer ()) hheld (Function.update_self ..))⟩
      | failed _ _ fault =>
        obtain ⟨outcome, hnext⟩ := hfault fault
        exact ⟨_, h.resume_silent ht (.failed r.write _ fault) rfl
          (.closing (congrArg (·.andThen (Profiles.closing r.resumeId)) hnext))⟩
      | interrupted _ _ fault =>
        obtain ⟨outcome, hnext⟩ := hfault fault
        exact ⟨_, h.resume_write ht (.interrupted _ _ fault) hheld hbs
          (.closing (congrArg (·.andThen (Profiles.closing r.resumeId)) hnext))⟩
    | _ => exact ho.elim

theorem act_settling (h : Orderly β σ) (ht : t ∈ σ.tasks) {resumeId : String} {p : Program α}
    {next : Except Fault e.Answer → Program α} {r : ProfileRecord} (hs : Settles resumeId p)
    (hheld : σ.place.Holds t.name resumeId) (hlast : β resumeId = bs ++ [⟨t.name, r, none⟩])
    (hp : .perform e next = p.andThen (Profiles.closing resumeId))
    (he : e.Happens t.name σ.toSite answer x) :
    ∃ β', Orderly β' { x with tasks := Scene.resume t.name (next answer) σ.tasks } := by
  cases p with
  | done outcome =>
    cases hp
    cases he with
    | released hw hname hkey hin =>
      exact ⟨_, h.resume_silent ht (.released hw hname hkey hin) rfl (.ended rfl)⟩
  | perform e' next' =>
    cases e' with
    | store q =>
      obtain ⟨⟨r', rfl, rfl, hr'⟩, hnext⟩ := hs
      cases hp
      obtain ⟨outcome, hdone⟩ := hnext answer
      have hclosing := congrArg (·.andThen (Profiles.closing r'.resumeId)) hdone
      have hbs := (hlast ▸ h.recorded r'.resumeId).outcome rfl hr'
      cases he with
      | answered =>
        exact ⟨_, h.resume_write ht (.answered _ _) hheld hbs (.closing hclosing)⟩
      | failed _ _ fault =>
        exact ⟨_, h.resume_silent ht (.failed r'.write _ fault) rfl (.closing hclosing)⟩
      | interrupted _ _ fault =>
        exact ⟨_, h.resume_write ht (.interrupted _ _ fault) hheld hbs (.closing hclosing)⟩
    | ask x y =>
      cases hp
      cases he with
      | replied =>
        exact ⟨_, h.resume_silent ht (.replied x y _ answer) rfl
          (.settling rfl (hs answer) hheld hlast)⟩
    | _ => exact hs.elim

theorem act (h : Orderly β σ) (ht : t ∈ σ.tasks) {next : Except Fault e.Answer → Program α}
    (hp : t.program = .perform e next) (he : e.Happens t.name σ.toSite answer x) :
    ∃ β', Orderly β' { x with tasks := Scene.resume t.name (next answer) σ.tasks } := by
  cases h.staged t ht with
  | outside hp' ho hsilent =>
    cases hp.symm.trans hp'
    cases he with
    | granted hw hname hkey hin hfirst =>
      exact ⟨_, h.resume_silent ht (.granted hw hname hkey hin hfirst) rfl
        (.opening rfl ho (hkey ▸ Workplace.holds_letIn hw hname hin hfirst) hsilent)⟩
    | withdrawn hw hname hkey hin fault =>
      exact ⟨_, h.resume_silent ht (.withdrawn hw hname hkey hin fault) rfl (.ended rfl)⟩
  | opening hp' ho hheld hsilent => exact h.act_opening ht ho hheld hsilent (hp.symm.trans hp') he
  | settling hp' hs hheld hlast => exact h.act_settling ht hs hheld hlast (hp.symm.trans hp') he
  | closing hp' =>
    cases hp.symm.trans hp'
    cases he with
    | released hw hname hkey hin =>
      exact ⟨_, h.resume_silent ht (.released hw hname hkey hin) rfl (.ended rfl)⟩
  | ended hp' => cases hp.symm.trans hp'

end Orderly

def Builds (assistant : Option Assistant) (p : Program ProfileRecord) : Prop :=
  ∃ o resumeId text, p = buildAndSave assistant o resumeId text

theorem orderly_opened (s : Store) : Orderly (fun _ => []) (Scene.opened s : Scene α) where
  tidy := Workplace.tidy_empty
  known _ he := by cases he
  staged _ ht := by cases ht
  recorded _ := ⟨rfl, List.nodup_nil, fun _ hb => by cases hb⟩
  records _ he := by cases he

theorem Orderly.step {assistant : Option Assistant} {σ τ : Scene ProfileRecord}
    (h : Orderly β σ) (hs : Scene.Step (Builds assistant) σ τ) : ∃ β', Orderly β' τ := by
  cases hs with
  | begin hp hn =>
    obtain ⟨o, resumeId, text, rfl⟩ := hp
    exact ⟨β, h.begin hn (opens_build assistant o resumeId text)⟩
  | arrive _ _ hn => exact ⟨β, h.arrive hn _⟩
  | act ht hp he => exact h.act ht hp he

theorem exists_orderly {assistant : Option Assistant} {σ : Scene ProfileRecord}
    (h : Scene.Reached (Builds assistant) σ) : ∃ β, Orderly β σ := by
  obtain ⟨s, hs⟩ := h
  induction hs with
  | refl => exact ⟨_, orderly_opened s⟩
  | tail _ hs ih =>
    obtain ⟨β, hβ⟩ := ih
    exact hβ.step hs

/-- However builds are interleaved, the writes about a resume fall into blocks of one build each,
and nothing else is written. -/
theorem exists_blocks_of_reached {assistant : Option Assistant} {σ : Scene ProfileRecord}
    (h : Scene.Reached (Builds assistant) σ) :
    (∀ resumeId, ∃ bs, Recorded resumeId σ.journal bs) ∧
      ∀ e ∈ σ.journal, ∃ resumeId, e.2.concerns resumeId = true := by
  obtain ⟨β, hβ⟩ := exists_orderly h
  exact ⟨fun resumeId => ⟨β resumeId, hβ.recorded resumeId⟩, hβ.records⟩

/-- A build of a profile from an empty text. -/
def rival : Program ProfileRecord := buildAndSave none ⟨⟨0, some 0⟩, ""⟩ "r1" ""

/-- Two builds of one resume, ready to begin. -/
def paired : Scene ProfileRecord := ⟨⟨.empty, .empty, []⟩, [⟨"a", rival⟩, ⟨"b", rival⟩]⟩

theorem reached_paired : Scene.Reached (Builds none) paired := by
  have hrival : Builds none rival := ⟨_, _, _, rfl⟩
  have hone : Scene.Reached (Builds none) ⟨⟨.empty, .empty, []⟩, [⟨"a", rival⟩]⟩ :=
    Scene.Reached.begin ⟨.empty, .refl⟩ hrival fun _ ht => by cases ht
  refine hone.begin hrival fun t ht => ?_
  rw [List.mem_singleton.mp ht]
  decide

/-- The two get their turns alternately. -/
def raced : Scene ProfileRecord :=
  paired.serveAll ["a", "b", "a", "b", "a", "b", "a", "b", "a", "b", "a", "b"]

/-- The second build waits until the first is done. -/
theorem exists_blocks_of_reached_raced :
    raced.journal.map Prod.fst = ["a", "a", "b"] ∧
      (∀ resumeId, ∃ bs, Recorded resumeId raced.journal bs) ∧
      ∀ e ∈ raced.journal, ∃ resumeId, e.2.concerns resumeId = true :=
  ⟨by decide +kernel, exists_blocks_of_reached (reached_paired.serveAll _)⟩

end Profiles

end Shortlist
