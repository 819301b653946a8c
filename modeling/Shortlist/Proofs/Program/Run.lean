import Shortlist.Program.Run

/-! # Running composed programs

A run of a composed program is the run of its first part followed by a run of the rest. A fault
skips what follows it unless it is handled.
-/

namespace Shortlist

/-- A world in which no call fails and nobody replies. -/
def World.quiet (s : Store) : World := ⟨s, [], [], [], []⟩

theorem World.answerCall_of_calm {w : World} {q : StoreCall} (hw : w.pendingFaults = []) :
    w.answerCall q =
      (.ok (w.store.answer q).1,
        { w with
          store := (w.store.answer q).2
          journal := if q.isWrite then w.journal ++ [q] else w.journal }) := by
  simp [answerCall, hw]

theorem Store.answer_of_read (s : Store) {q : StoreCall} (hq : q.isWrite = false) :
    (s.answer q).2 = s := by
  cases q <;> first | rfl | simp [StoreCall.isWrite] at hq

namespace Program

variable {α β : Type} {p : Program α} {w w' : World} {a : α} {e : Fault}

@[simp] theorem run_done (r : Except Fault α) (w : World) : (done r).run w = (r, w) := rfl

@[simp] theorem run_pure (a : α) (w : World) : (pure a : Program α).run w = (.ok a, w) := rfl

@[simp] theorem run_refuse (f : Failure) (w : World) :
    (refuse f : Program α).run w = (.error (.failure f), w) := rfl

theorem map_done (g : α → β) (r : Except Fault α) : g <$> done r = done (r.map g) := by
  cases r <;> rfl

theorem run_andThen (p : Program α) (f : Except Fault α → Program β) (w : World) :
    (p.andThen f).run w = (f (p.run w).1).run (p.run w).2 := by
  induction p generalizing w with
  | done r => rfl
  | perform effect next ih => exact ih _ _

theorem run_bind_ok {f : α → Program β} (h : p.run w = (.ok a, w')) :
    (p >>= f).run w = (f a).run w' := by
  change (p.andThen _).run w = _
  rw [run_andThen, h]

theorem run_bind_error {f : α → Program β} (h : p.run w = (.error e, w')) :
    (p >>= f).run w = (.error e, w') := by
  change (p.andThen _).run w = _
  rw [run_andThen, h]
  rfl

theorem run_map (g : α → β) (p : Program α) (w : World) :
    (g <$> p).run w = ((p.run w).1.map g, (p.run w).2) := by
  cases h : p.run w with
  | mk r w' =>
    cases r with
    | ok a => exact run_bind_ok h
    | error e => exact run_bind_error h

theorem run_call (op : Operation) (q : StoreCall) (w : World) :
    (call op q).run w = ((w.answerCall q).1.mapError op.wrap, (w.answerCall q).2) := by
  rw [call, mapFault, run_andThen]
  rfl

theorem run_call_read (op : Operation) {q : StoreCall} (hq : q.isWrite = false)
    (hw : w.pendingFaults.find? (PendingFault.awaits q) = none) :
    (call op q).run w = (.ok (w.store.answer q).1, w) := by
  rw [run_call, World.answerCall, hw]
  simp only [hq, w.store.answer_of_read hq]
  rfl

/-- Alone in its world a program gets every lock it asks for. -/
theorem run_holding (key : String) (p : Program α) (w : World) :
    (holding key p).run w = p.run w := by
  change (p.andThen fun outcome => perform (.release key) fun _ => done outcome).run w = _
  rw [run_andThen]
  rfl

theorem run_handle_ok {h : Fault → Program α} (hr : p.run w = (.ok a, w')) :
    (p.handle h).run w = (.ok a, w') := by
  rw [handle, run_andThen, hr]
  rfl

theorem run_handle_error {h : Fault → Program α} (hr : p.run w = (.error e, w'))
    (he : e.isError = true) : (p.handle h).run w = (h e).run w' := by
  rw [handle, run_andThen, hr]
  simp only [he, if_true]

/-! ## Programs that only look -/

variable {ok : StoreCall → Prop}

/-- Every effect of the program is a call to the store of a kind. -/
def Looks (ok : StoreCall → Prop) : Program α → Prop
  | done _ => True
  | perform (.store q) next => ok q ∧ ∀ answer, (next answer).Looks ok
  | perform _ _ => False

/-- Every effect of the program is a call that reads the store. -/
abbrev ReadOnly (p : Program α) : Prop := p.Looks fun q => q.isWrite = false

theorem Looks.andThen {f : Except Fault α → Program β} (hp : p.Looks ok)
    (hf : ∀ r, (f r).Looks ok) : (p.andThen f).Looks ok := by
  induction p with
  | done r => exact hf r
  | perform effect next ih =>
    cases effect with
    | store q => exact ⟨hp.1, fun answer => ih answer (hp.2 answer)⟩
    | _ => exact hp.elim

theorem Looks.bind {f : α → Program β} (hp : p.Looks ok) (hf : ∀ a, (f a).Looks ok) :
    (p >>= f).Looks ok := by
  refine Looks.andThen hp fun r => ?_
  cases r with
  | ok a => exact hf a
  | error e => trivial

theorem looks_call (op : Operation) {q : StoreCall} (hq : ok q) : (call op q).Looks ok :=
  ⟨hq, fun _ => trivial⟩

/-- The program is one call, and ends with what it makes of the answer. -/
def Once (q : StoreCall) (p : Program α) : Prop :=
  ∃ next, p = .perform (.store q) next ∧ ∀ answer, ∃ r, next answer = .done r

theorem once_call_bind {op : Operation} {q : StoreCall} {f : q.Answer → Program α}
    (hf : ∀ a, ∃ r, f a = .done r) : (call op q >>= f).Once q := by
  refine ⟨_, rfl, fun answer => ?_⟩
  cases answer with
  | ok a => exact hf a
  | error fault => exact ⟨_, rfl⟩

/-- Where no call fails, looking tells the same in all worlds with one store and changes none. -/
theorem Looks.run_eq (hp : p.ReadOnly) (hw : w.pendingFaults = []) :
    p.run w = ((p.run (.quiet w.store)).1, w) := by
  induction p with
  | done r => rfl
  | perform effect next ih =>
    cases effect with
    | store q =>
      have hq : ∀ v : World, v.pendingFaults = [] →
          v.answer (.store q) = (.ok (v.store.answer q).1, v) := by
        intro v hv
        change v.answerCall q = _
        rw [World.answerCall_of_calm hv, v.store.answer_of_read hp.1, hp.1]
        rfl
      rw [run, run, hq w hw, hq (.quiet w.store) rfl]
      exact ih _ (hp.2 _)
    | _ => exact hp.elim

end Program

end Shortlist
