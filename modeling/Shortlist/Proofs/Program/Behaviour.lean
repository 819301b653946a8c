import Shortlist.Proofs.Program.Run

/-! # What a program can do

A program is at the mercy of its surroundings: any effect can fail, and the text-generation service
may reply anything. A call to the store that fails has changed nothing. What a program can do at all
is followed part by part; the run in a world is one of the possibilities.
-/

namespace Shortlist

inductive Effect.Yields : (e : Effect) → Store → Except Fault e.Answer → Store → Prop where
  | answered (q : StoreCall) (s : Store) : Yields (.store q) s (.ok (s.answer q).1) (s.answer q).2
  | failed (e : Effect) (s : Store) (fault : Fault) : Yields e s (.error fault) s
  | replied (x y : String) (s : Store) (reply : Option String) : Yields (.ask x y) s (.ok reply) s
  | acquired (key : String) (s : Store) : Yields (.acquire key) s (.ok ()) s
  | released (key : String) (s : Store) : Yields (.release key) s (.ok ()) s

inductive Effect.Gives : (e : Effect) → Store → Except Fault e.Answer → Store → Prop where
  | answered (q : StoreCall) (s : Store) : Gives (.store q) s (.ok (s.answer q).1) (s.answer q).2
  | failed (q : StoreCall) (s : Store) (fault : Fault) : Gives (.store q) s (.error fault) s
  | replied (x y : String) (s : Store) (outcome : Except Fault (Option String)) :
      Gives (.ask x y) s outcome s
  | acquired (key : String) (s : Store) : Gives (.acquire key) s (.ok ()) s
  | released (key : String) (s : Store) : Gives (.release key) s (.ok ()) s

namespace Effect

variable {e : Effect} {s s' : Store} {answer : Except Fault e.Answer}

theorem Gives.yields (h : e.Gives s answer s') : e.Yields s answer s' := by
  cases h with
  | answered q => exact .answered q s
  | failed q _ fault => exact .failed _ s fault
  | replied x y _ outcome =>
    cases outcome with
    | ok reply => exact .replied x y s reply
    | error fault => exact .failed _ s fault
  | acquired key => exact .acquired key s
  | released key => exact .released key s

theorem gives_answer (e : Effect) (w : World) :
    e.Gives w.store (w.answer e).1 (w.answer e).2.store := by
  cases e with
  | store q =>
    change Gives (.store q) _ (w.answerCall q).1 (w.answerCall q).2.store
    rw [World.answerCall]
    split
    · exact .failed q w.store _
    · exact .answered q w.store
  | ask x y =>
    have hs : (w.answerQuestion x y).2.store = w.store := by
      simp only [World.answerQuestion]
      split <;> rfl
    change Gives (.ask x y) _ (w.answerQuestion x y).1 (w.answerQuestion x y).2.store
    rw [hs]
    exact .replied x y w.store _
  | acquire key => exact .acquired key w.store
  | release key => exact .released key w.store

end Effect

namespace Program

variable {α β : Type} {p : Program α} {s s' : Store} {r : Except Fault α} {a : α}

inductive Yields : Program α → Store → Except Fault α → Store → Prop where
  | done (r : Except Fault α) (s : Store) : Yields (.done r) s r s
  | perform {e : Effect} {next : Except Fault e.Answer → Program α} {s s' s'' : Store}
      {answer : Except Fault e.Answer} {r : Except Fault α} (h : e.Yields s answer s')
      (hn : Yields (next answer) s' r s'') : Yields (.perform e next) s r s''

theorem yields_done_iff {x : Except Fault α} : (done x).Yields s r s' ↔ r = x ∧ s' = s := by
  constructor
  · intro h
    cases h
    exact ⟨rfl, rfl⟩
  · rintro ⟨rfl, rfl⟩
    exact .done _ _

theorem yields_andThen_iff {f : Except Fault α → Program β} {r : Except Fault β} :
    (p.andThen f).Yields s r s' ↔ ∃ x s₁, p.Yields s x s₁ ∧ (f x).Yields s₁ r s' := by
  induction p generalizing s with
  | done x =>
    constructor
    · exact fun h => ⟨x, s, .done x s, h⟩
    · rintro ⟨_, _, hp, h⟩
      obtain ⟨rfl, rfl⟩ := yields_done_iff.mp hp
      exact h
  | perform e next ih =>
    constructor
    · intro h
      cases h with
      | perform he hn =>
        obtain ⟨x, s₁, hx, hf⟩ := (ih _).mp hn
        exact ⟨x, s₁, .perform he hx, hf⟩
    · rintro ⟨x, s₁, hp, hf⟩
      cases hp with
      | perform he hn => exact .perform he ((ih _).mpr ⟨x, s₁, hn, hf⟩)

theorem yields_bind_iff {f : α → Program β} {r : Except Fault β} : (p >>= f).Yields s r s' ↔
    (∃ a s₁, p.Yields s (.ok a) s₁ ∧ (f a).Yields s₁ r s') ∨
      ∃ fault, p.Yields s (.error fault) s' ∧ r = .error fault := by
  refine yields_andThen_iff.trans ⟨?_, ?_⟩
  · rintro ⟨x, s₁, hp, h⟩
    cases x with
    | ok a => exact Or.inl ⟨a, s₁, hp, h⟩
    | error fault =>
      obtain ⟨rfl, rfl⟩ := yields_done_iff.mp h
      exact Or.inr ⟨fault, hp, rfl⟩
  · rintro (⟨a, s₁, hp, h⟩ | ⟨fault, hp, rfl⟩)
    · exact ⟨_, _, hp, h⟩
    · exact ⟨_, _, hp, .done _ _⟩

theorem yields_call_iff {op : Operation} {q : StoreCall} {r : Except Fault q.Answer} :
    (call op q).Yields s r s' ↔
      r = .ok (s.answer q).1 ∧ s' = (s.answer q).2 ∨
        ∃ fault, r = .error (op.wrap fault) ∧ s' = s := by
  constructor
  · intro h
    cases h with
    | perform he hn =>
      obtain ⟨rfl, rfl⟩ := yields_done_iff.mp hn
      cases he with
      | answered => exact Or.inl ⟨rfl, rfl⟩
      | failed _ _ fault => exact Or.inr ⟨fault, rfl, rfl⟩
  · rintro (⟨rfl, rfl⟩ | ⟨fault, rfl, rfl⟩)
    · exact .perform (.answered q _) (.done _ _)
    · exact .perform (.failed _ _ fault) (.done _ _)

theorem eq_of_yields_call_error {op : Operation} {q : StoreCall} {fault : Fault}
    (h : (call op q).Yields s (.error fault) s') : s' = s := by
  obtain ⟨h, -⟩ | ⟨_, -, h⟩ := yields_call_iff.mp h
  · cases h
  · exact h

/-! ### Success -/

theorem yields_bind_ok_iff {f : α → Program β} {b : β} : (p >>= f).Yields s (.ok b) s' ↔
    ∃ a s₁, p.Yields s (.ok a) s₁ ∧ (f a).Yields s₁ (.ok b) s' := by
  simp [yields_bind_iff]

theorem yields_pure_ok_iff {b : α} : (pure b : Program α).Yields s (.ok a) s' ↔
    a = b ∧ s' = s :=
  yields_done_iff.trans (and_congr_left' (Except.ok.injEq a b ▸ Iff.rfl))

theorem yields_map_ok_iff {f : α → β} {b : β} :
    (f <$> p).Yields s (.ok b) s' ↔ ∃ a, p.Yields s (.ok a) s' ∧ f a = b := by
  change (p >>= fun a => pure (f a)).Yields s (.ok b) s' ↔ _
  simp only [yields_bind_ok_iff, yields_pure_ok_iff]
  constructor
  · rintro ⟨a, s₁, ha, rfl, rfl⟩
    exact ⟨a, ha, rfl⟩
  · rintro ⟨a, ha, rfl⟩
    exact ⟨a, s', ha, rfl, rfl⟩

theorem yields_call_ok_iff {op : Operation} {q : StoreCall} {b : q.Answer} :
    (call op q).Yields s (.ok b) s' ↔ b = (s.answer q).1 ∧ s' = (s.answer q).2 := by
  simp [yields_call_iff]

theorem yields_ofValidation_ok_iff {v : Validation α} :
    (ofValidation v).Yields s (.ok a) s' ↔ v = .valid a ∧ s' = s := by
  rw [ofValidation, yields_done_iff]
  cases v with
  | valid b =>
    change Except.ok a = Except.ok b ∧ _ ↔ _
    rw [Except.ok.injEq, Validation.valid.injEq, eq_comm]
  | invalid d =>
    change Except.ok a = Except.error _ ∧ _ ↔ _
    simp only [reduceCtorEq]

theorem not_yields_refuse_ok {f : Failure} : ¬ (refuse f : Program α).Yields s (.ok a) s' := by
  simp [refuse, fail, yields_done_iff]

/-! ### Reading and running -/

theorem Looks.eq_of_yields (hp : p.ReadOnly) (h : p.Yields s r s') : s' = s := by
  induction p generalizing s with
  | done x => exact (yields_done_iff.mp h).2
  | perform e next ih =>
    cases e with
    | store q =>
      cases h with
      | perform he hn =>
        have hs := ih _ (hp.2 _) hn
        cases he with
        | answered => exact hs.trans (s.answer_of_read hp.1)
        | failed => exact hs
    | _ => exact hp.elim

/-- The run of a program in a world is one of the things that it can do. -/
theorem yields_run (p : Program α) (w : World) :
    p.Yields w.store (p.run w).1 (p.run w).2.store := by
  induction p generalizing w with
  | done r => exact .done r w.store
  | perform e next ih => exact .perform (e.gives_answer w).yields (ih _ (w.answer e).2)

end Program

end Shortlist
