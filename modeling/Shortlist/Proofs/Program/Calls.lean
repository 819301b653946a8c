import Shortlist.Proofs.Program.Behaviour

/-! # The calls of a program

Which calls to the store a program is made of, whatever the answers. What each of them preserves is
preserved by the program.
-/

namespace Shortlist.Program

variable {α β : Type} {ok : StoreCall → Prop} {p : Program α}

/-- Every call to the store that the program can make is of a kind. -/
def Calls (ok : StoreCall → Prop) : Program α → Prop
  | done _ => True
  | perform e next => (∀ q, e = .store q → ok q) ∧ ∀ answer, (next answer).Calls ok

theorem Calls.mono {ok' : StoreCall → Prop} (hp : p.Calls ok) (h : ∀ q, ok q → ok' q) :
    p.Calls ok' := by
  induction p with
  | done r => trivial
  | perform e next ih =>
    exact ⟨fun q hq => h q (hp.1 q hq), fun answer => ih answer (hp.2 answer)⟩

theorem Calls.andThen {f : Except Fault α → Program β} (hp : p.Calls ok)
    (hf : ∀ r, (f r).Calls ok) : (p.andThen f).Calls ok := by
  induction p with
  | done r => exact hf r
  | perform e next ih => exact ⟨hp.1, fun answer => ih answer (hp.2 answer)⟩

theorem Calls.bind {f : α → Program β} (hp : p.Calls ok) (hf : ∀ a, (f a).Calls ok) :
    (p >>= f).Calls ok := by
  refine Calls.andThen hp fun r => ?_
  cases r with
  | ok a => exact hf a
  | error e => trivial

theorem Calls.ite {c : Prop} [Decidable c] {q : Program α} (hp : p.Calls ok)
    (hq : q.Calls ok) : (if c then p else q).Calls ok := by
  split
  · exact hp
  · exact hq

theorem Calls.map (f : α → β) (hp : p.Calls ok) : (f <$> p).Calls ok :=
  Calls.bind hp fun _ => trivial

theorem Calls.handle {h : Fault → Program α} (hp : p.Calls ok) (hh : ∀ e, (h e).Calls ok) :
    (p.handle h).Calls ok := by
  refine Calls.andThen hp fun r => ?_
  cases r with
  | ok a => trivial
  | error e =>
    exact Calls.ite (hh e) trivial

theorem Calls.holding {key : String} (hp : p.Calls ok) : (holding key p).Calls ok := by
  refine ⟨fun _ he => by simp at he, fun answer => ?_⟩
  cases answer with
  | error e => trivial
  | ok _ => exact hp.andThen fun _ => ⟨fun _ he => by simp at he, fun _ => trivial⟩

theorem calls_ask (x y : String) : (ask x y).Calls ok :=
  ⟨fun _ he => by simp at he, fun _ => trivial⟩

theorem calls_call (op : Operation) {q : StoreCall} (hq : ok q) : (call op q).Calls ok :=
  ⟨fun _ he => Effect.store.inj he ▸ hq, fun _ => trivial⟩

theorem Looks.calls (hp : p.Looks ok) : p.Calls ok := by
  induction p with
  | done r => trivial
  | perform e next ih =>
    cases e with
    | store q => exact ⟨fun _ he => Effect.store.inj he ▸ hp.1, fun answer => ih _ (hp.2 answer)⟩
    | _ => exact hp.elim

/-- What all calls of the program preserve holds of every store that it can leave behind. -/
theorem Calls.invariant {I : Store → Prop} (hp : p.Calls ok)
    (hI : ∀ q s, ok q → I s → I (s.answer q).2) {s s' : Store} {r : Except Fault α}
    (h : p.Yields s r s') (hs : I s) : I s' := by
  induction h with
  | done r s => exact hs
  | perform he _ ih =>
    refine ih (hp.2 _) ?_
    cases he with
    | answered q => exact hI q _ (hp.1 q rfl) hs
    | _ => exact hs

end Shortlist.Program
