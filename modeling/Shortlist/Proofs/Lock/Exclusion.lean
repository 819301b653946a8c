import Mathlib.Data.List.Find
import Mathlib.Data.List.Nodup
import Mathlib.Logic.Relation
import Shortlist.Lock.Workers
import Shortlist.Proofs.Lock.Keyed

/-! # Taking turns

Workers arrive, are let in, leave and give up one step at a time and in any order. Whatever the
order, nobody holds a key together with somebody else, and a key has a lock exactly as long as
somebody holds it or waits for it. Who waits has only those on the same key before it.
-/

namespace Shortlist.Workplace

open Relation

variable {p q : Workplace} {ws : List Worker} {v w : Worker} {name key : String} {lock : LockId}
  {phase : WorkerPhase} {f : Worker → Worker}

/-- Lets those of the chosen hold their lock who are first for it. -/
def letIn (chosen : Worker → Bool) (ws : List Worker) : List Worker :=
  ws.map fun w =>
    if w.phase = .waiting && (holder? ws w.lock).any (·.name == w.name) && chosen w then
      { w with phase := .holding }
    else w

/-- Nobody of that name holds a key or waits for one. -/
def Absent (name : String) (ws : List Worker) : Prop :=
  ∀ w ∈ ws, w.name = name → w.phase.isInside = false

instance : Decidable (Absent name ws) :=
  inferInstanceAs (Decidable (∀ w ∈ ws, w.name = name → w.phase.isInside = false))

/-- What can happen next. A worker runs undisturbed until it has to wait, or until it is done. -/
inductive Step : Workplace → Workplace → Prop where
  /-- A worker enters a key, and waits for its lock. -/
  | arrive {p : Workplace} {name : String} (key : String) (hn : Absent name p.workers) :
      Step p (p.obey name (.start key))
  /-- Some of those who are first for their lock get it. -/
  | letIn {p : Workplace} (chosen : Worker → Bool) :
      Step p { p with workers := letIn chosen p.workers }
  /-- A worker that holds its key ends in some way. -/
  | leave {p : Workplace} {w : Worker} {phase : WorkerPhase} (hw : w ∈ p.workers)
      (hin : w.phase = .holding) (hout : phase.isInside = false) : Step p (p.depart w phase)
  /-- A worker is cancelled while it waits. -/
  | giveUp {p : Workplace} {w : Worker} (hw : w ∈ p.workers) (hin : w.phase = .waiting) :
      Step p (p.depart w .cancelled)
  /-- A worker is told how to end. -/
  | tell {p : Workplace} (name : String) {phase : WorkerPhase} (hout : phase.isInside = false) :
      Step p (p.tell name phase)

def Reached (p : Workplace) : Prop := ReflTransGen Step empty p

/-- How many hold a key or wait for it. -/
def usersOf (ws : List Worker) (key : String) : Nat :=
  ws.countP fun w => w.key = key && w.phase.isInside

structure Tidy (p : Workplace) : Prop where
  named : (p.workers.map Worker.name).Nodup
  counted : p.keyed.Counts (usersOf p.workers)
  shared : ∀ w ∈ p.workers, w.phase.isInside = true → p.keyed.lock? w.key = some w.lock
  first : ∀ w ∈ p.workers, w.phase = .holding → holder? p.workers w.lock = some w
  ends : ∀ w ∈ p.workers, ∀ phase, w.ending = some phase → phase.isInside = false

theorem tidy_empty : empty.Tidy where
  named := List.nodup_nil
  counted := KeyedLock.counts_empty
  shared _ hw := by cases hw
  first _ hw := by cases hw
  ends _ hw := by cases hw

/-! ## Those inside -/

theorem isInside_of_waiting (h : w.phase = .waiting) : w.phase.isInside = true := by rw [h]; rfl

theorem isInside_of_holding (h : w.phase = .holding) : w.phase.isInside = true := by rw [h]; rfl

theorem mem_of_holder? (h : holder? ws lock = some w) :
    w ∈ ws ∧ w.lock = lock ∧ w.phase.isInside = true := by
  have hp := List.find?_some h
  simp only [Bool.and_eq_true, decide_eq_true_eq] at hp
  exact ⟨List.mem_of_find?_eq_some h, hp⟩

theorem eq_of_name (h : (ws.map Worker.name).Nodup) (hv : v ∈ ws) (hw : w ∈ ws)
    (hn : v.name = w.name) : v = w :=
  List.inj_on_of_nodup_map h hv hw hn

theorem eq_of_mem_map (hname : ∀ w, (f w).name = w.name) (h : (ws.map Worker.name).Nodup)
    (hw : w ∈ ws) (hv : v ∈ ws.map f) (hn : v.name = w.name) : v = f w := by
  obtain ⟨u, hu, rfl⟩ := List.mem_map.mp hv
  rw [eq_of_name h hu hw ((hname u).symm.trans hn)]

/-- Changes that nobody enters by, and that leave who is first alone, leave it first. -/
theorem holder?_map_of_eq (hlock : ∀ w, (f w).lock = w.lock)
    (hin : ∀ w, (f w).phase.isInside = true → w.phase.isInside = true) (hfv : f v = v)
    (h : holder? ws lock = some v) : holder? (ws.map f) lock = some v := by
  induction ws with
  | nil => cases h
  | cons w ws ih =>
    rw [holder?, List.find?_cons] at h
    rw [List.map_cons, holder?, List.find?_cons]
    split at h
    · next hw =>
      obtain rfl := Option.some.inj h
      rw [hfv, hw]
    · next hw =>
      have hfw : ((f w).lock = lock && (f w).phase.isInside) = false := by
        rw [hlock]
        cases hphase : (f w).phase.isInside with
        | false => exact Bool.and_false _
        | true => rw [← hw, hin w hphase]
      rw [hfw]
      exact ih h

theorem holder?_map (hlock : ∀ w, (f w).lock = w.lock)
    (hin : ∀ w, (f w).phase.isInside = w.phase.isInside) (lock : LockId) :
    holder? (ws.map f) lock = (holder? ws lock).map f := by
  rw [holder?, List.find?_map]
  simp only [Function.comp_def, hlock, hin]
  rfl

/-- Those who are not inside can be left out. -/
theorem holder?_filter {keep : Worker → Bool}
    (h : ∀ w ∈ ws, w.phase.isInside = true → keep w = true) (lock : LockId) :
    holder? (ws.filter keep) lock = holder? ws lock := by
  rw [holder?, List.find?_filter]
  refine List.find?_congr fun w hw => ?_
  cases hin : w.phase.isInside with
  | false => simp
  | true => simp [h w hw hin]

/-! ## Steps -/

section Map

variable (h : p.Tidy) (hname : ∀ w, (f w).name = w.name) (hkey : ∀ w, (f w).key = w.key)
  (hlock : ∀ w, (f w).lock = w.lock) (hin : ∀ w, (f w).phase.isInside = w.phase.isInside)

include h hname hkey hlock hin

theorem Tidy.map (hfirst : ∀ w ∈ p.workers, (f w).phase = .holding →
      holder? p.workers w.lock = some w)
    (hends : ∀ w ∈ p.workers, ∀ phase, (f w).ending = some phase → phase.isInside = false) :
    Tidy { p with workers := p.workers.map f } where
  named := by
    rw [List.map_map, show Worker.name ∘ f = Worker.name from funext hname]
    exact h.named
  counted := by
    have husers : usersOf (p.workers.map f) = usersOf p.workers := by
      funext key
      rw [usersOf, List.countP_map]
      simp only [Function.comp_def, hkey, hin]
      rfl
    rw [husers]
    exact h.counted
  shared := by
    intro w' hw' hin'
    obtain ⟨w, hw, rfl⟩ := List.mem_map.mp hw'
    rw [hkey, hlock]
    exact h.shared w hw (hin w ▸ hin')
  first := by
    intro w' hw' hholding
    obtain ⟨w, hw, rfl⟩ := List.mem_map.mp hw'
    rw [hlock, holder?_map hlock hin, hfirst w hw hholding]
    rfl
  ends := by
    intro w' hw'
    obtain ⟨w, hw, rfl⟩ := List.mem_map.mp hw'
    exact hends w hw

end Map

theorem Tidy.letIn (h : p.Tidy) (chosen : Worker → Bool) :
    Tidy { p with workers := Workplace.letIn chosen p.workers } := by
  refine h.map ?_ ?_ ?_ ?_ ?_ ?_
  · exact fun w => by split <;> rfl
  · exact fun w => by split <;> rfl
  · exact fun w => by split <;> rfl
  · intro w
    split
    · next hc =>
      simp only [Bool.and_eq_true, decide_eq_true_eq] at hc
      rw [hc.1.1]
      rfl
    · rfl
  · intro w hw hholding
    split at hholding
    · next hc =>
      simp only [Bool.and_eq_true, Option.any_eq_true, beq_iff_eq] at hc
      obtain ⟨⟨-, v, hv, hn⟩, -⟩ := hc
      rw [hv, eq_of_name h.named (mem_of_holder? hv).1 hw hn]
    · exact h.first w hw hholding
  · intro w hw phase he
    refine h.ends w hw phase ?_
    split at he
    · exact he
    · exact he

theorem Tidy.tell (h : p.Tidy) (name : String) (hout : phase.isInside = false) :
    (p.tell name phase).Tidy := by
  refine h.map ?_ ?_ ?_ ?_ ?_ ?_
  · exact fun w => by split <;> rfl
  · exact fun w => by split <;> rfl
  · exact fun w => by split <;> rfl
  · exact fun w => by split <;> rfl
  · intro w hw hholding
    refine h.first w hw ?_
    split at hholding
    · exact hholding
    · exact hholding
  · intro w hw phase' he
    split at he
    · exact Option.some.inj he ▸ hout
    · exact h.ends w hw phase' he

theorem exists_change_eq (h : (ws.map Worker.name).Nodup) (hw : w ∈ ws) (f : Worker → Worker) :
    ∃ before after, ws = before ++ w :: after ∧ change w.name f ws = before ++ f w :: after := by
  obtain ⟨before, after, rfl⟩ := List.append_of_mem hw
  refine ⟨before, after, rfl, ?_⟩
  have hsame : ∀ vs : List Worker, (∀ v ∈ vs, v.name ≠ w.name) → change w.name f vs = vs := by
    intro vs hvs
    exact (List.map_congr_left fun v hv => if_neg (hvs v hv)).trans (List.map_id' vs)
  rw [List.map_append, List.map_cons, List.nodup_append, List.nodup_cons] at h
  obtain ⟨-, ⟨hafter, -⟩, hbefore⟩ := h
  have hb := hsame before fun v hv hn => hbefore _ (List.mem_map_of_mem hv) _ List.mem_cons_self hn
  have ha := hsame after fun v hv hn => hafter (hn ▸ List.mem_map_of_mem hv)
  rw [change] at hb ha ⊢
  rw [List.map_append, List.map_cons, hb, ha, if_pos rfl]

theorem usersOf_depart (h : p.Tidy) (hw : w ∈ p.workers) (hin : w.phase.isInside = true)
    (hout : phase.isInside = false) (k : String) : usersOf (p.depart w phase).workers k =
      if k = w.key then usersOf p.workers k - 1 else usersOf p.workers k := by
  obtain ⟨before, after, hws, hchange⟩ :=
    exists_change_eq h.named hw fun v => { v with phase := phase }
  change usersOf (change w.name _ p.workers) k = _
  rw [hchange, hws]
  simp only [usersOf, List.countP_append, List.countP_cons, hout, hin, Bool.and_false,
    Bool.and_true, decide_eq_true_eq, Bool.false_eq_true, if_false]
  split
  · next he => rw [if_pos he.symm]; rfl
  · next hne => rw [if_neg (Ne.symm hne)]

theorem one_le_usersOf (hw : w ∈ ws) (hin : w.phase.isInside = true) : 1 ≤ usersOf ws w.key :=
  List.countP_pos_iff.mpr ⟨w, hw, by simp [hin]⟩

theorem mem_of_mem_depart (hout : phase.isInside = false) (hv : v ∈ (p.depart w phase).workers)
    (hin : v.phase.isInside = true) : v ∈ p.workers ∧ v.name ≠ w.name := by
  obtain ⟨u, hu, rfl⟩ := List.mem_map.mp hv
  by_cases hn : u.name = w.name
  · rw [if_pos hn, hout] at hin
    cases hin
  · rw [if_neg hn]
    exact ⟨hu, hn⟩

theorem holder?_depart (hout : phase.isInside = false) (hne : v.name ≠ w.name)
    (h : holder? p.workers lock = some v) : holder? (p.depart w phase).workers lock = some v := by
  refine holder?_map_of_eq (fun u => ?_) (fun u hu => ?_) (if_neg hne) h
  · split <;> rfl
  · split at hu
    · rw [hout] at hu
      cases hu
    · exact hu

theorem Tidy.depart (h : p.Tidy) (hw : w ∈ p.workers) (hin : w.phase.isInside = true)
    (hout : phase.isInside = false) : (p.depart w phase).Tidy where
  named := by
    have hnames : (p.depart w phase).workers.map Worker.name = p.workers.map Worker.name := by
      refine (List.map_map ..).trans (List.map_congr_left fun v _ => ?_)
      dsimp only [Function.comp]
      split <;> rfl
    rw [hnames]
    exact h.named
  counted := by
    rw [funext (usersOf_depart h hw hin hout)]
    exact h.counted.leave w.key (one_le_usersOf hw hin)
  shared v hv hvin := by
    obtain ⟨hvp, -⟩ := mem_of_mem_depart hout hv hvin
    change (p.keyed.leave w.key).lock? v.key = some v.lock
    rw [KeyedLock.lock?_leave, if_neg, h.shared v hvp hvin]
    -- A lock that is taken away had a single user.
    rintro ⟨hk, hone⟩
    have hstill := one_le_usersOf hv hvin
    rw [usersOf_depart h hw hin hout, if_pos hk, hk] at hstill
    rw [h.counted.userCount_eq] at hone
    omega
  first v hv hholding := by
    obtain ⟨hvp, hne⟩ := mem_of_mem_depart hout hv (isInside_of_holding hholding)
    exact holder?_depart hout hne (h.first v hvp hholding)
  ends v hv phase' he := by
    obtain ⟨u, hu, rfl⟩ := List.mem_map.mp hv
    refine h.ends u hu phase' ?_
    split at he
    · exact he
    · exact he

theorem obey_start (p : Workplace) (name key : String) : p.obey name (.start key) =
    { keyed := (p.keyed.enter key).2
      workers := p.workers.filter (·.name ≠ name) ++
        [⟨name, key, (p.keyed.enter key).1, .waiting, none⟩] } := rfl

theorem Absent.keeps (hn : Absent name ws) (hw : w ∈ ws) (hin : w.phase.isInside = true) :
    decide (w.name ≠ name) = true := by
  refine decide_eq_true fun he => ?_
  rw [hn w hw he] at hin
  cases hin

theorem usersOf_arrive (hn : Absent name p.workers) (key k : String) :
    usersOf (p.obey name (.start key)).workers k =
      if k = key then usersOf p.workers k + 1 else usersOf p.workers k := by
  have hothers : usersOf (p.workers.filter (·.name ≠ name)) k = usersOf p.workers k := by
    rw [usersOf, List.countP_filter]
    refine List.countP_congr fun w hw => ?_
    simp only [Bool.and_eq_true, and_iff_left_iff_imp]
    exact fun hin => hn.keeps hw hin.2
  rw [obey_start, ← hothers, usersOf, List.countP_append, ← usersOf]
  split
  · next he => simp [he, WorkerPhase.isInside]
  · next hne => simp [Ne.symm hne]

theorem Tidy.arrive (h : p.Tidy) (hn : Absent name p.workers) (key : String) :
    (p.obey name (.start key)).Tidy := by
  have hcounted := h.counted.enter key
  rw [← funext (usersOf_arrive hn key)] at hcounted
  rw [obey_start] at hcounted ⊢
  have hmem : ∀ {w}, w ∈ p.workers.filter (·.name ≠ name) → w ∈ p.workers :=
    fun hw => (List.mem_filter.mp hw).1
  refine ⟨?_, hcounted, ?_, ?_, ?_⟩
  · rw [List.map_append, List.nodup_append]
    refine ⟨h.named.sublist (List.filter_sublist.map _), List.nodup_singleton _, ?_⟩
    rintro a ha b hb rfl
    obtain ⟨w, hw, rfl⟩ := List.mem_map.mp ha
    exact of_decide_eq_true (List.mem_filter.mp hw).2 (List.mem_singleton.mp hb)
  · intro w hw hin
    rw [KeyedLock.lock?_enter]
    rcases List.mem_append.mp hw with hw | hw
    · have hlock := h.shared w (hmem hw) hin
      split
      · next he => rw [← he, hlock]; rfl
      · exact hlock
    · obtain rfl := List.mem_singleton.mp hw
      rw [if_pos rfl, ← KeyedLock.enter_fst]
  · intro w hw hholding
    rcases List.mem_append.mp hw with hw | hw
    · have hfirst := h.first w (hmem hw) hholding
      rw [← holder?_filter fun _ => hn.keeps] at hfirst
      rw [holder?, List.find?_append, ← holder?, hfirst]
      rfl
    · obtain rfl := List.mem_singleton.mp hw
      cases hholding
  · intro w hw phase he
    rcases List.mem_append.mp hw with hw | hw
    · exact h.ends w (hmem hw) phase he
    · obtain rfl := List.mem_singleton.mp hw
      cases he

theorem Tidy.step (h : p.Tidy) (hs : Step p q) : q.Tidy := by
  cases hs with
  | arrive key hn => exact h.arrive hn key
  | letIn chosen => exact h.letIn chosen
  | leave hw hin hout => exact h.depart hw (isInside_of_holding hin) hout
  | giveUp hw hin => exact h.depart hw (isInside_of_waiting hin) rfl
  | tell name hout => exact h.tell name hout

theorem Tidy.steps (h : p.Tidy) (hs : ReflTransGen Step p q) : q.Tidy := by
  induction hs with
  | refl => exact h
  | tail _ hs ih => exact ih.step hs

theorem Reached.tidy (h : p.Reached) : p.Tidy := tidy_empty.steps h

/-! ## Orders -/

theorem step_promote (p : Workplace) : Step p { p with workers := promote p.workers } := by
  have hpromote : promote p.workers = Workplace.letIn (fun _ => true) p.workers := by
    simp only [promote, Workplace.letIn, Bool.and_true]
  rw [hpromote]
  exact .letIn _

theorem Tidy.steps_settle (h : p.Tidy) (rounds : Nat) : ReflTransGen Step p (settle rounds p) := by
  induction rounds generalizing p with
  | zero => exact .refl
  | succ rounds ih =>
    have hpromote := step_promote p
    have htidy := h.step hpromote
    rw [settle]
    split
    · next w hw =>
      have hmem := List.mem_of_find?_eq_some hw
      have hready := List.find?_some hw
      simp only [Bool.and_eq_true, decide_eq_true_eq] at hready
      obtain ⟨phase, hphase⟩ := Option.isSome_iff_exists.mp hready.2
      rw [hphase]
      have hleave := Step.leave hmem hready.1 (htidy.ends w hmem phase hphase)
      exact .head hpromote (.head hleave (ih (htidy.step hleave)))
    · exact .single hpromote

/-- Carrying out an order is a matter of steps. -/
theorem Tidy.steps_step (h : p.Tidy) (name : String) {order : WorkerOrder}
    (hname : ∀ key, order = .start key → Absent name p.workers) :
    ReflTransGen Step p (p.step name order) := by
  have hobey : ReflTransGen Step p (p.obey name order) := by
    cases order with
    | start key => exact .single (.arrive key (hname key rfl))
    | finish => exact .single (.tell name rfl)
    | fail => exact .single (.tell name rfl)
    | cancel =>
      rw [obey]
      split
      · next w hw =>
        have hin := List.find?_some hw
        simp only [Bool.and_eq_true, decide_eq_true_eq] at hin
        have hmem := List.mem_of_find?_eq_some hw
        cases hphase : w.phase with
        | waiting => exact .single (.giveUp hmem hphase)
        | holding => exact .single (.leave hmem hphase rfl)
        | _ =>
          rw [hphase] at hin
          cases hin.2
      · exact .refl
  exact hobey.trans ((h.steps hobey).steps_settle _)

theorem Reached.order (h : p.Reached) (name : String) {order : WorkerOrder}
    (hname : ∀ key, order = .start key → Absent name p.workers) : (p.step name order).Reached :=
  h.trans (h.tidy.steps_step name hname)

/-! ## What can be relied on -/

/-- Who is first of those that hold a key or wait for it. -/
def firstOn? (ws : List Worker) (key : String) : Option Worker :=
  ws.find? fun w => w.key = key && w.phase.isInside

namespace Tidy

variable (h : p.Tidy)

include h

theorem lock_eq_iff (hv : v ∈ p.workers) (hvin : v.phase.isInside = true) (hw : w ∈ p.workers)
    (hwin : w.phase.isInside = true) : v.lock = w.lock ↔ v.key = w.key := by
  have hvlock := h.shared v hv hvin
  have hwlock := h.shared w hw hwin
  constructor
  · exact fun he => h.counted.apart _ _ _ hvlock (he ▸ hwlock)
  · exact fun he => Option.some.inj (hvlock.symm.trans (he ▸ hwlock))

theorem holder?_eq_firstOn? (hw : w ∈ p.workers) (hin : w.phase.isInside = true) :
    holder? p.workers w.lock = firstOn? p.workers w.key := by
  refine List.find?_congr fun v hv => ?_
  cases hvin : v.phase.isInside with
  | false => rw [Bool.and_false, Bool.and_false]
  | true => rw [Bool.and_true, Bool.and_true, decide_eq_decide, h.lock_eq_iff hv hvin hw hin]

theorem eq_of_holding (hv : v ∈ p.workers) (hvin : v.phase = .holding) (hw : w ∈ p.workers)
    (hwin : w.phase = .holding) (hkey : v.key = w.key) : v = w := by
  have hlock := (h.lock_eq_iff hv (isInside_of_holding hvin) hw (isInside_of_holding hwin)).mpr hkey
  have hfirst := h.first v hv hvin
  rw [hlock, h.first w hw hwin] at hfirst
  exact (Option.some.inj hfirst).symm

theorem countP_holding_le_one (key : String) :
    p.workers.countP (fun w => w.key = key && w.phase = .holding) ≤ 1 := by
  rw [List.countP_eq_length_filter]
  have hnodup := (List.Nodup.of_map _ h.named).filter
    fun w => decide (w.key = key) && decide (w.phase = .holding)
  match hws : p.workers.filter (fun w => w.key = key && w.phase = .holding) with
  | [] => exact hws ▸ Nat.zero_le 1
  | [_] => exact hws ▸ Nat.le_refl 1
  | v :: w :: rest =>
    have hmem : ∀ u ∈ v :: w :: rest, u ∈ p.workers ∧ u.key = key ∧ u.phase = .holding := by
      intro u hu
      rw [← hws] at hu
      simpa using List.mem_filter.mp hu
    obtain ⟨hv, hvkey, hvin⟩ := hmem v (by simp)
    obtain ⟨hw, hwkey, hwin⟩ := hmem w (by simp)
    rw [hws, h.eq_of_holding hv hvin hw hwin (hvkey.trans hwkey.symm)] at hnodup
    exact absurd List.mem_cons_self (List.nodup_cons.mp hnodup).1

theorem firstOn?_of_step (hw : w ∈ p.workers) (hin : w.phase = .waiting) (hs : Step p q)
    (hq : { w with phase := .holding } ∈ q.workers) : firstOn? p.workers w.key = some w := by
  -- The worker itself still waits.
  have hwaits : ∀ {u}, u ∈ p.workers → u.name = w.name → u.phase = .waiting :=
    fun hu hn => eq_of_name h.named hu hw hn ▸ hin
  cases hs with
  | arrive key hn =>
    rw [obey_start] at hq
    rcases List.mem_append.mp hq with hq | hq
    · cases hwaits (List.mem_filter.mp hq).1 rfl
    · cases congrArg Worker.phase (List.mem_singleton.mp hq)
  | letIn chosen =>
    have hw' := eq_of_mem_map (fun u => by split <;> rfl) h.named hw hq rfl
    split at hw'
    · next hc =>
      simp only [Bool.and_eq_true, Option.any_eq_true, beq_iff_eq] at hc
      obtain ⟨⟨-, v, hv, hn⟩, -⟩ := hc
      rw [← h.holder?_eq_firstOn? hw (isInside_of_waiting hin), hv,
        eq_of_name h.named (mem_of_holder? hv).1 hw hn]
    · cases (congrArg Worker.phase hw').trans hin
  | leave _ _ hout => cases hwaits (mem_of_mem_depart hout hq rfl).1 rfl
  | giveUp _ _ => cases hwaits (mem_of_mem_depart rfl hq rfl).1 rfl
  | tell name hout =>
    have hw' := eq_of_mem_map (fun u => by split <;> rfl) h.named hw hq rfl
    split at hw'
    · cases (congrArg Worker.phase hw').trans hin
    · cases (congrArg Worker.phase hw').trans hin

theorem exists_step_of_firstOn? (hw : w ∈ p.workers) (hin : w.phase = .waiting)
    (hfirst : firstOn? p.workers w.key = some w) :
    ∃ q, Step p q ∧ { w with phase := .holding } ∈ q.workers := by
  refine ⟨_, .letIn fun _ => true, List.mem_map.mpr ⟨w, hw, ?_⟩⟩
  rw [h.holder?_eq_firstOn? hw (isInside_of_waiting hin), hfirst, hin]
  simp

end Tidy

structure Served (p : Workplace) : Prop where
  /-- At most one worker holds a key. -/
  exclusive : ∀ key, p.workers.countP (fun w => w.key = key && w.phase = .holding) ≤ 1
  /-- A key has a lock if and only if its users are counted, and there is one. -/
  listed : ∀ key, (p.keyed.contains key = true ↔ (p.keyed.users.lookup key).isSome = true) ∧
    ((p.keyed.users.lookup key).isSome = true ↔ 1 ≤ p.keyed.userCount key)
  /-- The users of a key are those who hold it or wait for it. -/
  counted : ∀ key, p.keyed.userCount key = usersOf p.workers key
  /-- They all use the lock that the key has. -/
  shared : ∀ w ∈ p.workers, w.phase.isInside = true → p.keyed.lock? w.key = some w.lock
  /-- Who waits can be let in if and only if nobody on the same key comes first. -/
  independent : ∀ w ∈ p.workers, w.phase = .waiting →
    ((∃ q, Step p q ∧ { w with phase := .holding } ∈ q.workers) ↔
      firstOn? p.workers w.key = some w)
  /-- A key that nobody holds or waits for is forgotten. -/
  dropped : ∀ key, (∀ w ∈ p.workers, w.key = key → w.phase.isInside = false) →
    p.keyed.contains key = false ∧ p.keyed.users.lookup key = none

/-- Workers take turns, whatever they do and however their steps are ordered. -/
theorem served_of_reached (h : p.Reached) : p.Served where
  exclusive := h.tidy.countP_holding_le_one
  listed key := by
    have hcounted := h.tidy.counted
    rw [hcounted.isSome_users_iff, hcounted.userCount_eq]
    exact ⟨hcounted.locks key, Iff.rfl⟩
  counted := h.tidy.counted.userCount_eq
  shared := h.tidy.shared
  independent _ hw hin :=
    ⟨fun ⟨_, hs, hq⟩ => h.tidy.firstOn?_of_step hw hin hs hq, h.tidy.exists_step_of_firstOn? hw hin⟩
  dropped key hnobody := by
    have hnone : usersOf p.workers key = 0 := by
      refine List.countP_eq_zero.mpr fun w hw => ?_
      by_cases hk : w.key = key
      · simp [hnobody w hw hk]
      · simp [hk]
    have hlock := h.tidy.counted.locks key
    rw [hnone] at hlock
    exact ⟨Bool.eq_false_iff.mpr fun hc => Nat.not_succ_le_zero 0 (hlock.mp hc),
      (h.tidy.counted.users key).trans (if_pos hnone)⟩

/-- Three workers arrive, two of them for the same key. -/
def crowded : Workplace :=
  ((empty.step "a" (.start "r1")).step "b" (.start "r1")).step "c" (.start "r2")

/-- The first fails, and the second is cancelled before it is let in. -/
def deserted : Workplace := (crowded.step "b" .cancel).step "a" .fail

theorem reached_crowded : crowded.Reached :=
  ((Reached.order .refl "a" fun _ _ => by decide).order "b" fun _ _ => by decide).order "c"
    fun _ _ => by decide

/-- The second worker on a key waits, that on another key does not. -/
theorem served_of_reached_crowded :
    crowded.Served ∧ crowded.workers.map Worker.phase = [.holding, .waiting, .holding] ∧
      crowded.keyed.userCount "r1" = 2 ∧
      deserted.Served ∧ deserted.keyed.contains "r1" = false := by
  have hdeserted : deserted.Reached :=
    (reached_crowded.order "b" (by simp)).order "a" (by simp)
  exact ⟨served_of_reached reached_crowded, by decide +kernel, by decide +kernel,
    served_of_reached hdeserted, by decide +kernel⟩

end Shortlist.Workplace
