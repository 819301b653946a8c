import Mathlib.Data.List.Induction
import Shortlist.Proofs.Program.Interleaving
import Shortlist.Proofs.Program.Trace

/-! # Courses

How tasks side by side get from one scene to another: every event in its order, each with the task
that it happened to. A task begins at any time, with the program that its name stands for.
-/

namespace Shortlist

/-- Whether what was to happen did, so that the task goes on with an answer. -/
def Event.succeeded (e : Event) : Bool := e.outcome.isOk

namespace Program

variable {α β γ : Type}

theorem andThen_assoc (p : Program α) (f : Except Fault α → Program β)
    (g : Except Fault β → Program γ) :
    (p.andThen f).andThen g = p.andThen fun r => (f r).andThen g := by
  induction p with
  | done r => rfl
  | perform e next ih => exact congrArg (perform e) (funext fun answer => ih answer)

theorem bind_andThen (p : Program α) (f : α → Program β) (g : Except Fault β → Program γ) :
    (p >>= f).andThen g = p.andThen fun
      | .ok a => (f a).andThen g
      | .error fault => g (.error fault) := by
  refine (andThen_assoc p _ g).trans (congrArg p.andThen (funext fun r => ?_))
  cases r <;> rfl

theorem Once.act {p : Program β} {f : Except Fault β → Program α} {q : StoreCall} {e : Effect}
    {next : Except Fault e.Answer → Program α} {answer : Except Fault e.Answer} {name : String}
    {x x' : Site} (h : p.Once q) (hq : q.isWrite = false) (hp : p.andThen f = .perform e next)
    (he : e.Happens name x answer x') :
    x' = x ∧ e = .store q ∧ ∃ r, next answer = f r ∧ p.Yields x.store r x.store := by
  obtain ⟨next', rfl, hdone⟩ := h
  cases hp
  obtain ⟨r, hr⟩ := hdone answer
  have hafter : x.after name q = x := by
    simp [Site.after, hq, x.store.answer_of_read hq]
  have hnext : (next' answer).andThen f = f r := by
    rw [hr]
    rfl
  cases he with
  | answered =>
    refine ⟨hafter, rfl, r, hnext, .perform (.answered q x.store) ?_⟩
    rw [x.store.answer_of_read hq, hr]
    exact .done r _
  | failed _ _ fault =>
    refine ⟨rfl, rfl, r, hnext, .perform (.failed _ x.store fault) ?_⟩
    rw [hr]
    exact .done r _
  | interrupted _ _ fault =>
    refine ⟨hafter, rfl, r, hnext, .perform (.failed _ x.store fault) ?_⟩
    rw [hr]
    exact .done r _

def isDone : Program α → Bool
  | .done _ => true
  | .perform .. => false

end Program

namespace Scene

variable {α : Type} {programs : String → Program α} {σ τ : Scene α} {es : List (String × Event)}

inductive Course (programs : String → Program α) (σ : Scene α) :
    List (String × Event) → Scene α → Prop where
  | rest : Course programs σ [] σ
  | begin {es : List (String × Event)} {τ : Scene α} {name : String}
      (h : Course programs σ es τ) (hn : ∀ t ∈ τ.tasks, t.name ≠ name) :
      Course programs σ es { τ with tasks := τ.tasks ++ [⟨name, programs name⟩] }
  /-- A task that needs a lock enters its key. -/
  | arrive {es : List (String × Event)} {τ : Scene α} {t : Task α} {key : String}
      {next : Except Fault Unit → Program α} (h : Course programs σ es τ) (ht : t ∈ τ.tasks)
      (hp : t.program = .perform (.acquire key) next)
      (hn : Workplace.Absent t.name τ.place.workers) :
      Course programs σ es { τ with place := τ.place.obey t.name (.start key) }
  | act {es : List (String × Event)} {τ : Scene α} {t : Task α} {e : Effect}
      {next : Except Fault e.Answer → Program α} {answer : Except Fault e.Answer} {x : Site}
      (h : Course programs σ es τ) (ht : t ∈ τ.tasks) (hp : t.program = .perform e next)
      (he : e.Happens t.name τ.toSite answer x) :
      Course programs σ (es ++ [(t.name, ⟨e, answer⟩)])
        { x with tasks := resume t.name (next answer) τ.tasks }

theorem Course.steps (h : Course programs σ es τ) :
    Relation.ReflTransGen (Step fun p => ∃ name, programs name = p) σ τ := by
  induction h with
  | rest => exact .refl
  | @begin _ _ name _ hn ih => exact ih.tail (.begin ⟨name, rfl⟩ hn)
  | arrive _ ht hp hn ih => exact ih.tail (.arrive ht hp hn)
  | act _ ht hp he ih => exact ih.tail (.act ht hp he)

def eventsOf (name : String) (es : List (String × Event)) : List Event :=
  (es.filter (·.1 = name)).map Prod.snd

theorem eventsOf_append_self (name : String) (es : List (String × Event)) (event : Event) :
    eventsOf name (es ++ [(name, event)]) = eventsOf name es ++ [event] := by
  simp [eventsOf]

theorem eventsOf_append_of_ne {name other : String} (hne : other ≠ name)
    (es : List (String × Event)) (event : Event) :
    eventsOf name (es ++ [(other, event)]) = eventsOf name es := by
  simp [eventsOf, hne]

theorem eventsOf_prefix (name : String) (es es' : List (String × Event)) :
    eventsOf name es <+: eventsOf name (es ++ es') := by
  simp [eventsOf]

/-- Tasks that have begun, and done nothing yet. -/
def gathered (programs : String → Program α) (names : List String) (s : Store) : Scene α :=
  { (opened s : Scene α) with tasks := names.map fun name => ⟨name, programs name⟩ }

theorem course_gathered {names : List String} (hn : names.Nodup) (s : Store) :
    Course programs (opened s) [] (gathered programs names s) := by
  induction names using List.reverseRecOn with
  | nil => exact .rest
  | append_singleton names name ih =>
    obtain ⟨hnames, -, hnew⟩ := List.nodup_append.mp hn
    have hfresh : ∀ t ∈ (gathered programs names s).tasks, t.name ≠ name := by
      intro t ht
      obtain ⟨other, hother, rfl⟩ := List.mem_map.mp ht
      exact hnew other hother name (List.mem_singleton_self name)
    rw [gathered, List.map_append]
    exact (ih hnames).begin hfresh

theorem Course.serve (h : Course programs σ es τ) (hes : ∀ e ∈ es, e.2.succeeded = true)
    (name : String) :
    ∃ es', Course programs σ es' (τ.serve name) ∧ ∀ e ∈ es', e.2.succeeded = true := by
  obtain he | ⟨t, ht, key, next, hp, hn, he⟩ | ⟨t, ht, e, next, answer, x, hp, hx, he⟩ :=
    τ.serve_cases name
  · rw [he]
    exact ⟨es, h, hes⟩
  · rw [he]
    exact ⟨es, h.arrive ht hp hn, hes⟩
  · rw [he]
    refine ⟨_, h.act ht hp hx, fun entry hentry => ?_⟩
    rcases List.mem_append.mp hentry with hentry | hentry
    · exact hes entry hentry
    · rw [List.mem_singleton.mp hentry]
      rfl

theorem Course.serveAll (h : Course programs σ es τ) (hes : ∀ e ∈ es, e.2.succeeded = true)
    (names : List String) :
    ∃ es', Course programs σ es' (τ.serveAll names) ∧ ∀ e ∈ es', e.2.succeeded = true := by
  induction names generalizing es τ with
  | nil => exact ⟨es, h, hes⟩
  | cons name names ih =>
    obtain ⟨es', h', hes'⟩ := h.serve hes name
    exact ih h' hes'

end Scene

end Shortlist
