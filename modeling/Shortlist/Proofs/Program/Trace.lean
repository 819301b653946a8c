import Shortlist.Proofs.Program.Behaviour

/-! # Traces

What happens while a program that has the locks for itself runs: one event for each effect, with its
outcome. Calls to the store may fail and the text-generation service may reply anything, but every
lock is there for the asking.
-/

namespace Shortlist

structure Event where
  effect : Effect
  outcome : Except Fault effect.Answer

def Event.isFailedCall : Event → Bool
  | ⟨.store _, .error _⟩ => true
  | _ => false

def Calm (es : List Event) : Prop := ∀ e ∈ es, e.isFailedCall = false

theorem Calm.of_subset {es es' : List Event} (h : Calm es') (hs : es ⊆ es') : Calm es :=
  fun e he => h e (hs he)

namespace Program

variable {α β : Type} {p : Program α} {s s' : Store} {es : List Event} {r : Except Fault α}

inductive Traces : Program α → Store → List Event → Except Fault α → Store → Prop where
  | done (r : Except Fault α) (s : Store) : Traces (.done r) s [] r s
  | perform {e : Effect} {next : Except Fault e.Answer → Program α} {s s' s'' : Store}
      {answer : Except Fault e.Answer} {es : List Event} {r : Except Fault α}
      (h : e.Gives s answer s') (hn : Traces (next answer) s' es r s'') :
      Traces (.perform e next) s (⟨e, answer⟩ :: es) r s''

theorem Traces.yields (h : p.Traces s es r s') : p.Yields s r s' := by
  induction h with
  | done r s => exact .done r s
  | perform he _ ih => exact .perform he.yields ih

theorem eq_of_traces_done {x : Except Fault α} (h : (done x).Traces s es r s') :
    es = [] ∧ r = x ∧ s' = s := by
  cases h
  exact ⟨rfl, rfl, rfl⟩

theorem exists_of_traces_andThen {f : Except Fault α → Program β} {r : Except Fault β}
    (h : (p.andThen f).Traces s es r s') :
    ∃ es₁ x s₁ es₂, p.Traces s es₁ x s₁ ∧ (f x).Traces s₁ es₂ r s' ∧ es = es₁ ++ es₂ := by
  induction p generalizing s es with
  | done x => exact ⟨[], x, s, es, .done x s, h, rfl⟩
  | perform e next ih =>
    cases h with
    | perform he hn =>
      obtain ⟨es₁, x, s₁, es₂, hp, hf, rfl⟩ := ih _ hn
      exact ⟨_, x, s₁, es₂, .perform he hp, hf, rfl⟩

theorem exists_of_traces_bind {f : α → Program β} {r : Except Fault β}
    (h : (p >>= f).Traces s es r s') :
    (∃ es₁ a s₁ es₂, p.Traces s es₁ (.ok a) s₁ ∧ (f a).Traces s₁ es₂ r s' ∧ es = es₁ ++ es₂) ∨
      ∃ fault, p.Traces s es (.error fault) s' ∧ r = .error fault := by
  obtain ⟨es₁, x, s₁, es₂, hp, hf, rfl⟩ := exists_of_traces_andThen h
  cases x with
  | ok a => exact Or.inl ⟨es₁, a, s₁, es₂, hp, hf, rfl⟩
  | error fault =>
    obtain ⟨rfl, rfl, rfl⟩ := eq_of_traces_done hf
    exact Or.inr ⟨fault, by rwa [List.append_nil], rfl⟩

theorem of_traces_call {op : Operation} {q : StoreCall} {r : Except Fault q.Answer}
    (h : (call op q).Traces s es r s') :
    (r = .ok (s.answer q).1 ∧ s' = (s.answer q).2) ∨
      ∃ fault, r = .error (op.wrap fault) ∧ s' = s ∧ ¬ Calm es := by
  cases h with
  | perform he hn =>
    obtain ⟨rfl, rfl, rfl⟩ := eq_of_traces_done hn
    cases he with
    | answered => exact Or.inl ⟨rfl, rfl⟩
    | failed _ _ fault =>
      exact Or.inr ⟨fault, rfl, rfl, fun h => by cases h _ List.mem_cons_self⟩

theorem of_traces_ask {x y : String} {r : Except Fault (Option String)}
    (h : (ask x y).Traces s es r s') : es = [⟨.ask x y, r⟩] ∧ s' = s := by
  cases h with
  | perform he hn =>
    obtain ⟨rfl, rfl, rfl⟩ := eq_of_traces_done hn
    cases he with
    | replied => exact ⟨rfl, rfl⟩

theorem exists_of_traces_holding {key : String} (h : (holding key p).Traces s es r s') :
    ∃ es', p.Traces s es' r s' ∧ es' ⊆ es := by
  cases h with
  | perform he hn =>
    cases he with
    | acquired =>
      obtain ⟨es₁, x, s₁, es₂, hp, hf, rfl⟩ := exists_of_traces_andThen hn
      cases hf with
      | perform he hn =>
        obtain ⟨rfl, rfl, rfl⟩ := eq_of_traces_done hn
        cases he with
        | released =>
          exact ⟨es₁, hp, fun e he => List.mem_cons_of_mem _ (List.mem_append_left _ he)⟩

/-- The run of a program in a world leaves a trace, a calm one where no fault awaits. -/
theorem exists_traces_run (p : Program α) (w : World) :
    ∃ es, p.Traces w.store es (p.run w).1 (p.run w).2.store ∧ (w.pendingFaults = [] → Calm es) := by
  induction p generalizing w with
  | done r => exact ⟨[], .done r w.store, fun _ _ he => by cases he⟩
  | perform e next ih =>
    obtain ⟨es, hes, hcalm⟩ := ih (w.answer e).1 (w.answer e).2
    refine ⟨_, .perform (e.gives_answer w) hes, fun hw => ?_⟩
    have hfirst : Event.isFailedCall ⟨e, (w.answer e).1⟩ = false ∧
        (w.answer e).2.pendingFaults = [] := by
      cases e with
      | store q =>
        change Event.isFailedCall ⟨.store q, (w.answerCall q).1⟩ = false ∧
          (w.answerCall q).2.pendingFaults = []
        rw [World.answerCall_of_calm hw]
        exact ⟨rfl, hw⟩
      | ask x y =>
        refine ⟨rfl, ?_⟩
        change (w.answerQuestion x y).2.pendingFaults = []
        simp only [World.answerQuestion]
        split <;> exact hw
      | acquire key => exact ⟨rfl, hw⟩
      | release key => exact ⟨rfl, hw⟩
    exact List.forall_mem_cons.mpr ⟨hfirst.1, hcalm hfirst.2⟩

end Program

end Shortlist
