import Shortlist.Proofs.Program.Calls

/-! # Pairs of runs

Two programs run side by side: in the same world, apart from the store. They are compared effect by
effect; both get the same faults and the same replies, and their stores answer for themselves.
-/

namespace Shortlist

def World.on (w : World) (s : Store) : World := { w with store := s }

namespace World

variable (w : World) (s t : Store)

theorem answerCall_on (q : StoreCall) :
    (∃ w' e, (w.on s).answerCall q = (.error e, World.on w' s) ∧
      (w.on t).answerCall q = (.error e, World.on w' t)) ∨
    ∃ w', (w.on s).answerCall q = (.ok (s.answer q).1, World.on w' (s.answer q).2) ∧
      (w.on t).answerCall q = (.ok (t.answer q).1, World.on w' (t.answer q).2) := by
  simp only [answerCall, on]
  cases w.pendingFaults.find? (PendingFault.awaits q) with
  | some f =>
    exact Or.inl
      ⟨{ w with pendingFaults := w.pendingFaults.eraseP (PendingFault.awaits q) }, _, rfl, rfl⟩
  | none =>
    exact Or.inr ⟨{ w with journal := if q.isWrite then w.journal ++ [q] else w.journal }, rfl, rfl⟩

theorem answerQuestion_on (x y : String) :
    (w.on s).answerQuestion x y =
      ((w.answerQuestion x y).1, (w.answerQuestion x y).2.on s) := by
  simp only [answerQuestion, on]
  split <;> simp_all

end World

namespace Program

variable {α β γ δ : Type} {I J : Store → Store → Prop} {p : Program α} {q : Program β}
  {s t : Store} {post : α → Store → β → Store → Prop}

/-- Wherever the two programs run, either both succeed, with results and stores as described, or
both fail with the same fault on stores that are related. The rest of the world stays the same. -/
def Paired (I : Store → Store → Prop) (p : Program α) (s : Store) (q : Program β) (t : Store)
    (post : α → Store → β → Store → Prop) : Prop :=
  ∀ w : World, ∃ (w' : World) (s' t' : Store),
    (∃ a b, p.run (w.on s) = (.ok a, w'.on s') ∧ q.run (w.on t) = (.ok b, w'.on t') ∧
      post a s' b t') ∨
    ∃ e, p.run (w.on s) = (.error e, w'.on s') ∧ q.run (w.on t) = (.error e, w'.on t') ∧ I s' t'

theorem paired_pure {a : α} {b : β} (h : post a s b t) :
    Paired I (pure a) s (pure b) t post :=
  fun w => ⟨w, s, t, Or.inl ⟨a, b, rfl, rfl, h⟩⟩

theorem paired_fault {e : Fault} (h : I s t) :
    Paired I (done (.error e)) s (done (.error e)) t post :=
  fun w => ⟨w, s, t, Or.inr ⟨e, rfl, rfl, h⟩⟩

theorem Paired.mono {post' : α → Store → β → Store → Prop} (h : Paired I p s q t post)
    (hp : ∀ a s' b t', post a s' b t' → post' a s' b t') : Paired I p s q t post' := by
  intro w
  obtain ⟨w', s', t', ⟨a, b, ha, hb, hab⟩ | he⟩ := h w
  · exact ⟨w', s', t', Or.inl ⟨a, b, ha, hb, hp _ _ _ _ hab⟩⟩
  · exact ⟨w', s', t', Or.inr he⟩

theorem Paired.yields (h : Paired I p s q t post) :
    Paired I p s q t fun a s' b t' =>
      post a s' b t' ∧ p.Yields s (.ok a) s' ∧ q.Yields t (.ok b) t' := by
  intro w
  obtain ⟨w', s', t', ⟨a, b, ha, hb, hab⟩ | he⟩ := h w
  · have hp := yields_run p (w.on s)
    have hq := yields_run q (w.on t)
    rw [ha] at hp
    rw [hb] at hq
    exact ⟨w', s', t', Or.inl ⟨a, b, ha, hb, hab, hp, hq⟩⟩
  · exact ⟨w', s', t', Or.inr he⟩

theorem Paired.bind {f : α → Program γ} {g : β → Program δ} {post' : γ → Store → δ → Store → Prop}
    (h : Paired I p s q t post)
    (hfg : ∀ a s' b t', post a s' b t' → Paired I (f a) s' (g b) t' post') :
    Paired I (p >>= f) s (q >>= g) t post' := by
  intro w
  obtain ⟨w', s', t', ⟨a, b, ha, hb, hab⟩ | ⟨e, ha, hb, he⟩⟩ := h w
  · rw [run_bind_ok ha, run_bind_ok hb]
    exact hfg a s' b t' hab w'
  · exact ⟨w', s', t', Or.inr ⟨e, run_bind_error ha, run_bind_error hb, he⟩⟩

theorem paired_call (op : Operation) {c : StoreCall} (hI : I s t) :
    Paired I (call op c) s (call op c) t fun a s' b t' =>
      a = (s.answer c).1 ∧ s' = (s.answer c).2 ∧ b = (t.answer c).1 ∧ t' = (t.answer c).2 := by
  intro w
  rw [run_call, run_call]
  obtain ⟨w', e, hs, ht⟩ | ⟨w', hs, ht⟩ := w.answerCall_on s t c
  · exact ⟨w', s, t, Or.inr ⟨_, by rw [hs]; rfl, by rw [ht]; rfl, hI⟩⟩
  · exact ⟨w', _, _, Or.inl ⟨_, _, by rw [hs]; rfl, by rw [ht]; rfl, rfl, rfl, rfl, rfl⟩⟩

theorem Calls.run_on {ok : StoreCall → Prop} (hp : p.Calls ok)
    (hok : ∀ c s t, ok c → J s t →
      (s.answer c).1 = (t.answer c).1 ∧ J (s.answer c).2 (t.answer c).2)
    (h : J s t) (w : World) :
    ∃ x w' s' t', p.run (w.on s) = (x, World.on w' s') ∧ p.run (w.on t) = (x, World.on w' t') ∧
      J s' t' := by
  induction p generalizing w s t with
  | done x => exact ⟨x, w, s, t, rfl, rfl, h⟩
  | perform e next ih =>
    rw [run, run]
    cases e with
    | store c =>
      change ∃ x w' s' t', (next ((w.on s).answerCall c).1).run ((w.on s).answerCall c).2 = _ ∧
        (next ((w.on t).answerCall c).1).run ((w.on t).answerCall c).2 = _ ∧ _
      obtain ⟨w', e, hs, ht⟩ | ⟨w', hs, ht⟩ := w.answerCall_on s t c
      · rw [hs, ht]
        exact ih _ (hp.2 _) h w'
      · obtain ⟨hans, hJ⟩ := hok c s t (hp.1 c rfl) h
        rw [hs, ht, ← hans]
        exact ih _ (hp.2 _) hJ w'
    | ask x y =>
      change ∃ x' w' s' t',
        (next ((w.on s).answerQuestion x y).1).run ((w.on s).answerQuestion x y).2 = _ ∧
        (next ((w.on t).answerQuestion x y).1).run ((w.on t).answerQuestion x y).2 = _ ∧ _
      rw [w.answerQuestion_on s, w.answerQuestion_on t]
      exact ih _ (hp.2 _) h _
    | acquire key => exact ih _ (hp.2 _) h w
    | release key => exact ih _ (hp.2 _) h w

/-- A program whose calls tell the same on related stores, and leave related stores, cannot tell
them apart. -/
theorem Calls.paired {ok : StoreCall → Prop} (hp : p.Calls ok)
    (hok : ∀ c s t, ok c → J s t →
      (s.answer c).1 = (t.answer c).1 ∧ J (s.answer c).2 (t.answer c).2)
    (hJI : ∀ s t, J s t → I s t) (h : J s t) :
    Paired I p s p t fun a s' b t' => a = b ∧ J s' t' := by
  intro w
  obtain ⟨x, w', s', t', hs, ht, hJ⟩ := hp.run_on hok h w
  refine ⟨w', s', t', ?_⟩
  cases x with
  | ok a => exact Or.inl ⟨a, a, hs, ht, rfl, hJ⟩
  | error e => exact Or.inr ⟨e, hs, ht, hJI s' t' hJ⟩

/-- A program that only looks at what is the same in two stores cannot tell them apart. -/
theorem Looks.paired (hp : p.Looks fun c => c.isWrite = false ∧ (s.answer c).1 = (t.answer c).1)
    (hI : I s t) : Paired I p s p t fun a s' b t' => a = b ∧ s' = s ∧ t' = t := by
  refine Calls.paired (J := fun s' t' => s' = s ∧ t' = t) hp.calls ?_ ?_ ⟨rfl, rfl⟩
  · rintro c _ _ hc ⟨rfl, rfl⟩
    exact ⟨hc.2, Store.answer_of_read _ hc.1, Store.answer_of_read _ hc.1⟩
  · rintro _ _ ⟨rfl, rfl⟩
    exact hI

end Program

end Shortlist
