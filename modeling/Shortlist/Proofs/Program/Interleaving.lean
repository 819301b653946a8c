import Shortlist.Program.Basic
import Shortlist.Proofs.Lock.Exclusion

/-! # Tasks side by side

Programs that run at the same time share a store and the locks of keys. They take turns effect by
effect, in any order. A call to the store can fail, whether or not it took effect, and a task can be
cancelled wherever it has to wait.
-/

namespace Shortlist

open Relation

structure Site where
  store : Store
  place : Workplace
  /-- The writes that took effect, in order, each with the task that made it. -/
  journal : List (String × StoreCall)

def Site.after (x : Site) (name : String) (q : StoreCall) : Site :=
  { x with
    store := (x.store.answer q).2
    journal := if q.isWrite then x.journal ++ [(name, q)] else x.journal }

def Site.without (x : Site) (w : Worker) (phase : WorkerPhase) : Site :=
  { x with place := x.place.depart w phase }

inductive Effect.Happens (name : String) :
    (e : Effect) → Site → Except Fault e.Answer → Site → Prop where
  | answered (q : StoreCall) (x : Site) :
      Happens name (.store q) x (.ok (x.store.answer q).1) (x.after name q)
  | failed (q : StoreCall) (x : Site) (fault : Fault) :
      Happens name (.store q) x (.error fault) x
  /-- The call takes effect, but its answer gets lost. -/
  | interrupted (q : StoreCall) (x : Site) (fault : Fault) :
      Happens name (.store q) x (.error fault) (x.after name q)
  | replied (systemPrompt userPrompt : String) (x : Site)
      (outcome : Except Fault (Option String)) :
      Happens name (.ask systemPrompt userPrompt) x outcome x
  /-- The task waits for the lock, and is first for it. -/
  | granted {key : String} {x : Site} {w : Worker} (hw : w ∈ x.place.workers)
      (hname : w.name = name) (hkey : w.key = key) (hin : w.phase = .waiting)
      (hfirst : (Workplace.holder? x.place.workers w.lock).any (·.name == w.name) = true) :
      Happens name (.acquire key) x (.ok ())
        { x with
          place := { x.place with
            workers := Workplace.letIn (·.name == name) x.place.workers } }
  /-- The task is cancelled while it waits for the lock. -/
  | withdrawn {key : String} {x : Site} {w : Worker} (hw : w ∈ x.place.workers)
      (hname : w.name = name) (hkey : w.key = key) (hin : w.phase = .waiting) (fault : Fault) :
      Happens name (.acquire key) x (.error fault) (x.without w .cancelled)
  | released {key : String} {x : Site} {w : Worker} (hw : w ∈ x.place.workers)
      (hname : w.name = name) (hkey : w.key = key) (hin : w.phase = .holding) :
      Happens name (.release key) x (.ok ()) (x.without w .done)

def Workplace.Holds (p : Workplace) (name key : String) : Prop :=
  ∃ w ∈ p.workers, w.name = name ∧ w.key = key ∧ w.phase = .holding

namespace Workplace

variable {p : Workplace} {name other key : String} {w : Worker} {phase : WorkerPhase}

theorem Tidy.eq_of_holds (h : p.Tidy) (hn : p.Holds name key) (ho : p.Holds other key) :
    name = other := by
  obtain ⟨v, hv, rfl, hvkey, hvin⟩ := hn
  obtain ⟨w, hw, rfl, hwkey, hwin⟩ := ho
  rw [h.eq_of_holding hv hvin hw hwin (hvkey.trans hwkey.symm)]

theorem Holds.arrive (h : p.Holds name key) (hne : name ≠ other) (key' : String) :
    (p.obey other (.start key')).Holds name key := by
  obtain ⟨w, hw, rfl, hw'⟩ := h
  rw [obey_start]
  exact ⟨w, List.mem_append_left _ (List.mem_filter.mpr ⟨hw, decide_eq_true hne⟩), rfl, hw'⟩

theorem Holds.start (h : p.Holds name key) (hn : Absent other p.workers) (key' : String) :
    (p.obey other (.start key')).Holds name key := by
  refine h.arrive (fun he => ?_) key'
  obtain ⟨w, hw, hname, -, hin⟩ := h
  have hout := hn w hw (hname.trans he)
  rw [hin] at hout
  cases hout

theorem Holds.letIn (h : p.Holds name key) (chosen : Worker → Bool) :
    Holds { p with workers := Workplace.letIn chosen p.workers } name key := by
  obtain ⟨w, hw, hname, hkey, hin⟩ := h
  refine ⟨w, List.mem_map.mpr ⟨w, hw, if_neg ?_⟩, hname, hkey, hin⟩
  simp [hin]

theorem Holds.depart (h : p.Holds name key) (hne : name ≠ w.name) :
    (p.depart w phase).Holds name key := by
  obtain ⟨v, hv, rfl, hv'⟩ := h
  exact ⟨v, List.mem_map.mpr ⟨v, hv, if_neg hne⟩, rfl, hv'⟩

theorem holds_letIn (hw : w ∈ p.workers) (hname : w.name = name) (hin : w.phase = .waiting)
    (hfirst : (holder? p.workers w.lock).any (·.name == w.name) = true) :
    Holds { p with workers := Workplace.letIn (·.name == name) p.workers } name w.key := by
  subst hname
  refine ⟨{ w with phase := .holding }, List.mem_map.mpr ⟨w, hw, if_pos ?_⟩, rfl, rfl, rfl⟩
  rw [hin, hfirst]
  exact beq_self_eq_true w.name

end Workplace

namespace Effect.Happens

variable {name other key : String} {e : Effect} {x x' : Site} {answer : Except Fault e.Answer}

theorem tidy (h : e.Happens name x answer x') (hx : x.place.Tidy) : x'.place.Tidy := by
  cases h with
  | granted => exact hx.letIn _
  | withdrawn hw _ _ hin => exact hx.depart hw (Workplace.isInside_of_waiting hin) rfl
  | released hw _ _ hin => exact hx.depart hw (Workplace.isInside_of_holding hin) rfl
  | _ => exact hx

theorem holds (h : e.Happens name x answer x') (hne : other ≠ name)
    (ho : x.place.Holds other key) : x'.place.Holds other key := by
  cases h with
  | granted => exact ho.letIn _
  | withdrawn _ hname => exact ho.depart (hname ▸ hne)
  | released _ hname => exact ho.depart (hname ▸ hne)
  | _ => exact ho

/-- Only the task writes. -/
theorem mem_journal (h : e.Happens name x answer x') {entry : String × StoreCall}
    (he : entry ∈ x'.journal) : entry ∈ x.journal ∨ entry.1 = name := by
  have hafter : ∀ q, entry ∈ (x.after name q).journal → entry ∈ x.journal ∨ entry.1 = name := by
    intro q hq
    dsimp only [Site.after] at hq
    split at hq
    · rcases List.mem_append.mp hq with hq | hq
      · exact .inl hq
      · exact .inr (congrArg Prod.fst (List.mem_singleton.mp hq))
    · exact .inl hq
  cases h with
  | answered q => exact hafter q he
  | interrupted q => exact hafter q he
  | _ => exact .inl he

end Effect.Happens

structure Task (α : Type) where
  name : String
  program : Program α

structure Scene (α : Type) extends Site where
  tasks : List (Task α)

namespace Scene

variable {α : Type} {starts : Program α → Prop} {σ τ : Scene α} {name : String}

def resume (name : String) (program : Program α) (tasks : List (Task α)) : List (Task α) :=
  tasks.map fun t => if t.name = name then ⟨name, program⟩ else t

theorem mem_resume {t : Task α} {tasks : List (Task α)} (ht : t ∈ tasks) (program : Program α) :
    ⟨t.name, program⟩ ∈ resume t.name program tasks :=
  List.mem_map.mpr ⟨t, ht, if_pos rfl⟩

theorem mem_resume_of_ne {u : Task α} {tasks : List (Task α)} (hu : u ∈ tasks)
    (hne : u.name ≠ name) (program : Program α) : u ∈ resume name program tasks :=
  List.mem_map.mpr ⟨u, hu, if_neg hne⟩

theorem of_mem_resume {u : Task α} {tasks : List (Task α)} {program : Program α}
    (hu : u ∈ resume name program tasks) : u = ⟨name, program⟩ ∨ u ∈ tasks ∧ u.name ≠ name := by
  obtain ⟨v, hv, rfl⟩ := List.mem_map.mp hu
  split
  · exact .inl rfl
  · next hne => exact .inr ⟨hv, hne⟩

inductive Step (starts : Program α → Prop) : Scene α → Scene α → Prop where
  | begin {σ : Scene α} {name : String} {program : Program α} (hp : starts program)
      (hn : ∀ t ∈ σ.tasks, t.name ≠ name) :
      Step starts σ { σ with tasks := σ.tasks ++ [⟨name, program⟩] }
  /-- A task that needs a lock enters its key. -/
  | arrive {σ : Scene α} {t : Task α} {key : String} {next : Except Fault Unit → Program α}
      (ht : t ∈ σ.tasks) (hp : t.program = .perform (.acquire key) next)
      (hn : Workplace.Absent t.name σ.place.workers) :
      Step starts σ { σ with place := σ.place.obey t.name (.start key) }
  | act {σ : Scene α} {t : Task α} {e : Effect} {next : Except Fault e.Answer → Program α}
      {answer : Except Fault e.Answer} {x : Site} (ht : t ∈ σ.tasks)
      (hp : t.program = .perform e next) (he : e.Happens t.name σ.toSite answer x) :
      Step starts σ { x with tasks := resume t.name (next answer) σ.tasks }

def opened (s : Store) : Scene α := ⟨⟨s, .empty, []⟩, []⟩

/-- Scenes that come of programs of a kind. -/
def Reached (starts : Program α → Prop) (σ : Scene α) : Prop :=
  ∃ s, ReflTransGen (Step starts) (opened s) σ

theorem Reached.begin (h : Reached starts σ) {program : Program α} (hp : starts program)
    (hn : ∀ t ∈ σ.tasks, t.name ≠ name) :
    Reached starts { σ with tasks := σ.tasks ++ [⟨name, program⟩] } := by
  obtain ⟨s, hs⟩ := h
  exact ⟨s, hs.tail (.begin hp hn)⟩

/-- Lets a task do what is next. Calls are answered; the text-generation service says nothing. -/
def serve (name : String) (σ : Scene α) : Scene α :=
  match σ.tasks.find? (·.name = name) with
  | none => σ
  | some t =>
    match t.program with
    | .done _ => σ
    | .perform (.store q) next =>
      { σ.toSite.after t.name q with
        tasks := resume t.name (next (.ok (σ.store.answer q).1)) σ.tasks }
    | .perform (.ask ..) next => { σ with tasks := resume t.name (next (.ok none)) σ.tasks }
    | .perform (.acquire key) next =>
      if Workplace.Absent t.name σ.place.workers then
        { σ with place := σ.place.obey t.name (.start key) }
      else
        match σ.place.workers.find? fun w => w.name = t.name && w.key = key && w.phase = .waiting
            && (Workplace.holder? σ.place.workers w.lock).any (·.name == w.name) with
        | none => σ
        | some _ =>
          { σ with
            place := { σ.place with
              workers := Workplace.letIn (·.name == t.name) σ.place.workers }
            tasks := resume t.name (next (.ok ())) σ.tasks }
    | .perform (.release key) next =>
      match σ.place.workers.find? fun w =>
          w.name = t.name && w.key = key && w.phase = .holding with
      | none => σ
      | some w =>
        { σ.toSite.without w .done with tasks := resume t.name (next (.ok ())) σ.tasks }

/-- What serving a task comes to: nothing, its arrival at a key, or an effect that succeeds. -/
theorem serve_cases (name : String) (σ : Scene α) : σ.serve name = σ ∨
    (∃ t ∈ σ.tasks, ∃ key next, t.program = .perform (.acquire key) next ∧
      Workplace.Absent t.name σ.place.workers ∧
      σ.serve name = { σ with place := σ.place.obey t.name (.start key) }) ∨
    ∃ t ∈ σ.tasks, ∃ (e : Effect) (next : Except Fault e.Answer → Program α) (answer : e.Answer)
      (x : Site), t.program = .perform e next ∧ e.Happens t.name σ.toSite (.ok answer) x ∧
        σ.serve name = { x with tasks := resume t.name (next (.ok answer)) σ.tasks } := by
  rw [serve]
  split
  · exact .inl rfl
  next t ht =>
  have htask := List.mem_of_find?_eq_some ht
  split
  · exact .inl rfl
  · next q next hp => exact .inr (.inr ⟨t, htask, _, next, _, _, hp, .answered q σ.toSite, rfl⟩)
  · next x y next hp =>
    exact .inr (.inr ⟨t, htask, _, next, none, _, hp, .replied x y σ.toSite (.ok none), rfl⟩)
  · next key next hp =>
    split
    · next hn => exact .inr (.inl ⟨t, htask, key, next, hp, hn, rfl⟩)
    split
    · exact .inl rfl
    · next w hw =>
      have hready := List.find?_some hw
      simp only [Bool.and_eq_true, decide_eq_true_eq] at hready
      obtain ⟨⟨⟨hname, hkey⟩, hin⟩, hfirst⟩ := hready
      exact .inr (.inr ⟨t, htask, _, next, (), _, hp,
        .granted (List.mem_of_find?_eq_some hw) hname hkey hin hfirst, rfl⟩)
  · next key next hp =>
    split
    · exact .inl rfl
    · next w hw =>
      have hready := List.find?_some hw
      simp only [Bool.and_eq_true, decide_eq_true_eq] at hready
      obtain ⟨⟨hname, hkey⟩, hin⟩ := hready
      exact .inr (.inr ⟨t, htask, _, next, (), _, hp,
        .released (List.mem_of_find?_eq_some hw) hname hkey hin, rfl⟩)

theorem Reached.serve (h : Reached starts σ) (name : String) :
    Reached starts (σ.serve name) := by
  obtain ⟨s, hs⟩ := h
  refine ⟨s, ?_⟩
  obtain he | ⟨t, ht, key, next, hp, hn, he⟩ | ⟨t, ht, e, next, answer, x, hp, hx, he⟩ :=
    σ.serve_cases name
  · rwa [he]
  · rw [he]
    exact hs.tail (.arrive ht hp hn)
  · rw [he]
    exact hs.tail (.act ht hp hx)

def serveAll (names : List String) (σ : Scene α) : Scene α :=
  names.foldl (fun σ name => σ.serve name) σ

theorem Reached.serveAll (h : Reached starts σ) (names : List String) :
    Reached starts (σ.serveAll names) := by
  induction names generalizing σ with
  | nil => exact h
  | cons name names ih => exact ih (h.serve name)

end Scene

end Shortlist
