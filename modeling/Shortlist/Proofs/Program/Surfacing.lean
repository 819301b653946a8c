import Shortlist.Proofs.Program.Calls
import Shortlist.Proofs.Program.Trace

/-! # Faults that surface

A program surfaces the faults of its calls to the store if each of them ends it: nothing is done
after the fault but give back locks, and the outcome is what the operation of the call makes of the
fault. This is asked for every answer to every effect, so it holds whoever else uses the store.
-/

namespace Shortlist

namespace Program

variable {α β : Type} {p : Program α} {named : Operation → StoreCall → Prop} {fault : Fault}
  {r : Except Fault α} {es before after : List Event}

inductive Meets : Program α → List Event → Except Fault α → Prop where
  | done (r : Except Fault α) : Meets (.done r) [] r
  | perform {e : Effect} {next : Except Fault e.Answer → Program α} {answer : Except Fault e.Answer}
      {es : List Event} {r : Except Fault α} (h : Meets (next answer) es r) :
      Meets (.perform e next) (⟨e, answer⟩ :: es) r

theorem Traces.meets {s s' : Store} (h : p.Traces s es r s') : p.Meets es r := by
  induction h with
  | done r s => exact .done r
  | perform _ _ ih => exact .perform ih

/-- All that is left to do is to give back locks and to end with an outcome. -/
def Closes (r : Except Fault α) : Program α → Prop
  | done x => x = r
  | perform (.release _) next => ∀ answer, (next answer).Closes r
  | perform _ _ => False

/-- Every call to the store belongs to an operation by name, and a fault of it ends the program. -/
inductive Surfaces (named : Operation → StoreCall → Prop) : Program α → Prop where
  | done (r : Except Fault α) : Surfaces named (.done r)
  | call {op : Operation} {q : StoreCall} {next : Except Fault q.Answer → Program α}
      (hop : named op q)
      (hfault : ∀ fault, (next (.error fault)).Closes (.error (op.wrap fault)))
      (hnext : ∀ answer, Surfaces named (next (.ok answer))) :
      Surfaces named (.perform (.store q) next)
  | other {e : Effect} {next : Except Fault e.Answer → Program α} (he : ∀ q, e ≠ .store q)
      (hnext : ∀ answer, Surfaces named (next answer)) : Surfaces named (.perform e next)

/-! ## What such programs are made of -/

theorem Closes.andThen {f : Except Fault α → Program β} {x : Except Fault β} (hp : p.Closes r)
    (hf : (f r).Closes x) : (p.andThen f).Closes x := by
  induction p with
  | done y =>
    cases hp
    exact hf
  | perform e next ih =>
    cases e with
    | release key => exact fun answer => ih answer (hp answer)
    | _ => exact hp.elim

theorem Surfaces.andThen {f : Except Fault α → Program β} (hp : p.Surfaces named)
    (hf : ∀ r, (f r).Surfaces named) (he : ∀ fault, (f (.error fault)).Closes (.error fault)) :
    (p.andThen f).Surfaces named := by
  induction hp with
  | done r => exact hf r
  | call hop hfault _ ih => exact .call hop (fun fault => (hfault fault).andThen (he _)) ih
  | other hne _ ih => exact .other hne ih

theorem Surfaces.bind {f : α → Program β} (hp : p.Surfaces named)
    (hf : ∀ a, (f a).Surfaces named) : (p >>= f).Surfaces named := by
  apply Surfaces.andThen hp
  · intro r
    cases r with
    | ok a => exact hf a
    | error fault => exact .done _
  · exact fun _ => rfl

theorem Surfaces.map (f : α → β) (hp : p.Surfaces named) : (f <$> p).Surfaces named :=
  Surfaces.bind hp fun _ => .done _

theorem Surfaces.ite {c : Prop} [Decidable c] {q : Program α} (hp : p.Surfaces named)
    (hq : q.Surfaces named) : (if c then p else q).Surfaces named := by
  split
  · exact hp
  · exact hq

theorem Surfaces.holding {key : String} (hp : p.Surfaces named) :
    (holding key p).Surfaces named := by
  refine .other nofun fun answer => ?_
  cases answer with
  | error fault => exact .done _
  | ok _ =>
    apply hp.andThen
    · exact fun _ => .other nofun fun _ => .done _
    · exact fun _ _ => rfl

theorem surfaces_call {op : Operation} {q : StoreCall} (h : named op q) :
    (call op q).Surfaces named :=
  .call h (fun _ => rfl) fun _ => .done _

theorem Calls.surfaces (hp : p.Calls fun _ => False) : p.Surfaces named := by
  induction p with
  | done r => exact .done r
  | perform e next ih =>
    exact .other (fun q he => hp.1 q he) fun answer => ih answer (hp.2 answer)

/-! ## What becomes of a fault -/

theorem Closes.of_meets (h : p.Closes r) {x : Except Fault α} (hm : p.Meets es x) :
    x = r ∧ ∀ e ∈ es, ∃ key, e.effect = .release key := by
  induction hm with
  | done x => exact ⟨h, List.forall_mem_nil _⟩
  | @perform e next answer es x hm ih =>
    cases e with
    | release key =>
      obtain ⟨hx, hes⟩ := ih (h answer)
      exact ⟨hx, List.forall_mem_cons.mpr ⟨⟨key, rfl⟩, hes⟩⟩
    | _ => exact h.elim

/-- Wherever in a run a call fails, the run ends with the fault as the operation reports it. -/
theorem Surfaces.of_meets (h : p.Surfaces named) {q : StoreCall}
    (hm : p.Meets (before ++ ⟨.store q, .error fault⟩ :: after) r) :
    ∃ op, named op q ∧ r = .error (op.wrap fault) ∧
      ∀ e ∈ after, ∃ key, e.effect = .release key := by
  induction before generalizing p with
  | nil =>
    cases hm with
    | perform hm =>
      cases h with
      | call hop hfault _ =>
        obtain ⟨hr, hafter⟩ := (hfault fault).of_meets hm
        exact ⟨_, hop, hr, hafter⟩
      | other he _ => exact (he q rfl).elim
  | cons e before ih =>
    cases hm with
    | @perform _ next answer _ _ hm =>
      cases h with
      | other _ hnext => exact ih (hnext answer) hm
      | call _ hfault hnext =>
        cases answer with
        | ok answer => exact ih (hnext answer) hm
        | error fault' =>
          -- Nothing follows a fault but releases, so the later call cannot be there.
          obtain ⟨-, hafter⟩ := (hfault fault').of_meets hm
          obtain ⟨key, hkey⟩ := hafter _ (List.mem_append_right _ List.mem_cons_self)
          cases hkey

end Program

end Shortlist
