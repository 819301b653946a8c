import Mathlib.Data.List.Nodup
import Mathlib.Data.List.Perm.Subperm
import Shortlist.Proofs.Skill.Expansion

/-! # Phrases that differ in aliases

A phrase with members of alias groups at some places and foreign tokens everywhere else. Whatever
member stands at a place, expanding the phrase group by group reaches the phrase in which every
place holds the shortest member of its group.
-/

namespace Shortlist.Skill

open Text

/-- A token that stands in no member of an alias group. -/
structure IsForeign (t : String) : Prop where
  token : tokens (normalize t) = [t]
  not_mem : ∀ g ∈ aliasGroups, ∀ m ∈ g, t ∉ tokens m

instance (t : String) : Decidable (IsForeign t) :=
  decidable_of_iff (tokens (normalize t) = [t] ∧ ∀ g ∈ aliasGroups, ∀ m ∈ g, t ∉ tokens m)
    ⟨fun ⟨ht, hm⟩ => ⟨ht, hm⟩, fun h => ⟨h.token, h.not_mem⟩⟩

/-- A place for a member of an alias group, two members that can stand there, and the tokens
behind the place. -/
structure Slot where
  group : List String
  left : String
  right : String
  after : List String

/-- Places for members of alias groups, with the tokens before the first of them. -/
structure Alternation where
  lead : List String
  slots : List Slot

namespace Alternation

/-- The tokens when every place holds the member chosen for it. -/
def row (a : Alternation) (choice : Slot → String) : List String :=
  a.lead ++ a.slots.flatMap fun x => tokens (choice x) ++ x.after

def phrase (a : Alternation) (choice : Slot → String) : String := join " " (a.row choice)

/-- Every place gets a member of its group. -/
def Admits (a : Alternation) (choice : Slot → String) : Prop :=
  ∀ x ∈ a.slots, choice x ∈ x.group

/-- What follows the first place. -/
def tail (x : Slot) (xs : List Slot) : Alternation := ⟨x.after, xs⟩

/-- The tokens around the places are foreign, and no two places touch. -/
structure Separated (a : Alternation) : Prop where
  lead : ∀ t ∈ a.lead, IsForeign t
  after : ∀ x ∈ a.slots, ∀ t ∈ x.after, IsForeign t
  apart : ∀ x ∈ a.slots.dropLast, x.after ≠ []

/-- All places are apart and belong to different groups. -/
structure WellFormed (a : Alternation) : Prop extends a.Separated where
  group_mem : ∀ x ∈ a.slots, x.group ∈ aliasGroups
  left_mem : ∀ x ∈ a.slots, x.left ∈ x.group
  right_mem : ∀ x ∈ a.slots, x.right ∈ x.group
  distinct : (a.slots.map Slot.group).Nodup

variable {a : Alternation} {c d : Slot → String} {x : Slot} {xs : List Slot}
  {g : List String} {m new : String}

theorem row_cons (lead : List String) :
    row ⟨lead, x :: xs⟩ c = lead ++ (tokens (c x) ++ (tail x xs).row c) := by
  simp [row, tail]

theorem mem_row {t : String} :
    t ∈ a.row c ↔ t ∈ a.lead ∨ ∃ x ∈ a.slots, t ∈ tokens (c x) ∨ t ∈ x.after := by
  simp [row]

theorem phrase_congr (h : ∀ x ∈ a.slots, c x = d x) : a.phrase c = a.phrase d := by
  have hr : a.row c = a.row d :=
    congrArg (a.lead ++ ·) (List.flatMap_congr fun x hx => by rw [h x hx])
  rw [phrase, phrase, hr]

theorem infix_row (hx : x ∈ a.slots) : tokens (c x) <:+: a.row c := by
  obtain ⟨xs, ys, hs⟩ := List.append_of_mem hx
  refine ⟨a.lead ++ xs.flatMap fun x => tokens (c x) ++ x.after,
    x.after ++ ys.flatMap fun x => tokens (c x) ++ x.after, ?_⟩
  simp [row, hs]

namespace Separated

theorem tail {lead : List String} (h : Separated ⟨lead, x :: xs⟩) : (tail x xs).Separated where
  lead := h.after x List.mem_cons_self
  after y hy := h.after y (List.mem_cons_of_mem x hy)
  apart y hy := by
    cases xs with
    | nil => simp [Alternation.tail] at hy
    | cons z zs => exact h.apart y (List.mem_cons_of_mem x hy)

theorem disjoint_lead (h : a.Separated) (hg : g ∈ aliasGroups) (hm : m ∈ g) :
    (tokens m).Disjoint a.lead := fun t ht hl => (h.lead t hl).not_mem g hg m hm ht

theorem bars_tail {lead : List String} (h : Separated ⟨lead, x :: xs⟩) (hg : g ∈ aliasGroups)
    (hm : m ∈ g) : Bars (tokens m) ((Alternation.tail x xs).row c) := by
  intro t ht
  have ht' : t ∈ x.after := by
    cases hx : x.after with
    | nil =>
      -- Only the last place has nothing behind it.
      cases xs with
      | nil => simp [row, Alternation.tail, hx] at ht
      | cons y ys => exact (h.apart x (by simp) hx).elim
    | cons u us =>
      obtain rfl : u = t := by simpa [row, Alternation.tail, hx] using ht
      exact List.mem_cons_self
  exact (h.after x List.mem_cons_self t ht').not_mem g hg m hm

theorem exists_of_infix_row (h : a.Separated) (hg : g ∈ aliasGroups) (hm : m ∈ g)
    (hi : tokens m <:+: a.row c) : ∃ x ∈ a.slots, tokens m <:+: tokens (c x) := by
  obtain ⟨lead, slots⟩ := a
  induction slots generalizing lead with
  | nil =>
    have he := infix_of_disjoint_append (h.disjoint_lead hg hm) hi
    exact ((tokens_member g hg m hm).1 (List.infix_nil.mp he)).elim
  | cons x xs ih =>
    rw [row_cons] at hi
    rcases (h.bars_tail hg hm).infix_append (infix_of_disjoint_append (h.disjoint_lead hg hm) hi)
      with hx | hr
    · exact ⟨x, List.mem_cons_self, hx⟩
    · obtain ⟨y, hy, hi⟩ := ih x.after h.tail hr
      exact ⟨y, List.mem_cons_of_mem x hy, hi⟩

/-- Swapping a member in the row swaps it at the places that hold it, if it stands nowhere else. -/
theorem replaceTokens_row (h : a.Separated) (hg : g ∈ aliasGroups) (hm : m ∈ g)
    (hc : ∀ x ∈ a.slots, c x = m ∨ ¬ tokens m <:+: tokens (c x)) :
    replaceTokens (tokens m) (tokens new) 0 (a.row c) =
      a.row fun x => if c x = m then new else c x := by
  obtain ⟨lead, slots⟩ := a
  have hn := (tokens_member g hg m hm).1
  induction slots generalizing lead with
  | nil =>
    rw [row, replaceTokens_disjoint_append hn (h.disjoint_lead hg hm)]
    rfl
  | cons x xs ih =>
    obtain ⟨hx, hxs⟩ := List.forall_mem_cons.mp hc
    have hb : Bars (tokens m) ((Alternation.tail x xs).row c) := h.bars_tail hg hm
    have ht : replaceTokens (tokens m) (tokens new) 0 ((Alternation.tail x xs).row c) =
        (Alternation.tail x xs).row fun x => if c x = m then new else c x := ih x.after h.tail hxs
    rw [row_cons, row_cons, replaceTokens_disjoint_append hn (h.disjoint_lead hg hm), ← ht]
    by_cases he : c x = m
    · rw [if_pos he, he, replaceTokens_append hn, hb.replaceTokens_one hn]
    · rw [if_neg he, hb.replaceTokens_append (hx.resolve_left he)]

end Separated

/-! ## Expanding -/

/-- The choice in which the place of a group holds the shortest member. -/
def settle (g : List String) (c : Slot → String) (x : Slot) : String :=
  if x.group = g then shortest g else c x

theorem Admits.settle (hc : a.Admits c) (hg : g ∈ aliasGroups) : a.Admits (settle g c) := by
  intro x hx
  rw [Alternation.settle]
  split
  · next he => exact he ▸ shortest_mem g hg
  · exact hc x hx

def settled (a : Alternation) : String := a.phrase fun x => shortest x.group

def HasForeign (a : Alternation) : Prop := a.lead ≠ [] ∨ ∃ x ∈ a.slots, x.after ≠ []

namespace WellFormed

variable {phrases : List String} {groups : List (List String)} {s : String}

theorem isToken_of_mem_row (h : a.WellFormed) (hc : a.Admits c) :
    ∀ t ∈ a.row c, IsToken t := by
  intro t ht
  rcases mem_row.mp ht with hl | ⟨x, hx, hm | ha⟩
  · exact isToken_iff.mpr (h.lead t hl).token
  · exact isToken_of_mem_member (h.group_mem x hx) (hc x hx) hm
  · exact isToken_iff.mpr (h.after x hx t ha).token

theorem tokens_phrase (h : a.WellFormed) (hc : a.Admits c) :
    tokens (a.phrase c) = a.row c := tokens_join (h.isToken_of_mem_row hc)

theorem normalize_phrase (h : a.WellFormed) (hc : a.Admits c) :
    normalize (a.phrase c) = a.phrase c := normalize_join (h.isToken_of_mem_row hc)

theorem containsPhrase_phrase_iff (h : a.WellFormed) (hc : a.Admits c) (hg : g ∈ aliasGroups)
    (hm : m ∈ g) :
    containsPhrase (a.phrase c) m = true ↔ ∃ x ∈ a.slots, tokens m <:+: tokens (c x) := by
  rw [phrase, ← join_tokens m, containsPhrase_join_iff (h.isToken_of_mem_row hc)
    fun t => isToken_of_mem_member hg hm, join_tokens]
  constructor
  · exact fun hi => h.exists_of_infix_row hg hm hi.2
  · rintro ⟨x, hx, hi⟩
    exact ⟨(tokens_member g hg m hm).1, hi.trans (infix_row hx)⟩

theorem slot_eq (h : a.WellFormed) {x y : Slot} (hx : x ∈ a.slots) (hy : y ∈ a.slots)
    (he : x.group = y.group) : x = y := List.inj_on_of_nodup_map h.distinct hx hy he

theorem eq_of_isInfix (h : a.WellFormed) (hc : a.Admits c) {x y : Slot}
    (hx : x ∈ a.slots) (hy : y ∈ a.slots) (hm : m ∈ x.group) (hs : m ≠ shortest x.group)
    (hi : tokens m <:+: tokens (c y)) : y = x := by
  by_contra hne
  have hg : x.group ≠ y.group := fun he => hne (h.slot_eq hx hy he).symm
  exact hs (eq_shortest_of_isInfix _ (h.group_mem x hx) _ (h.group_mem y hy) hg m hm _ (hc y hy) hi)

theorem longest?_eq (h : a.WellFormed) (hc : a.Admits c) (hx : x ∈ a.slots)
    (hs : c x ≠ shortest x.group) :
    longest? (x.group.filter (containsPhrase (a.phrase c))) = some (c x) := by
  have hg := h.group_mem x hx
  apply longest?_eq_some
  · exact List.mem_filter.mpr ⟨hc x hx,
      (h.containsPhrase_phrase_iff hc hg (hc x hx)).mpr ⟨x, hx, List.infix_rfl⟩⟩
  · intro n hn hne
    obtain ⟨hn, hi⟩ := List.mem_filter.mp hn
    by_cases hns : n = shortest x.group
    · rw [hns]
      exact length_shortest_lt _ hg _ (hc x hx) hs
    · obtain ⟨y, hy, hi⟩ := (h.containsPhrase_phrase_iff hc hg hn).mp hi
      obtain rfl := h.eq_of_isInfix hc hx hy hn hns hi
      exact length_lt_of_isInfix _ hg _ hn _ (hc y hy) hi hne

theorem exists_foreign (h : a.WellFormed) (hf : a.HasForeign) (c : Slot → String) :
    ∃ t ∈ a.row c, IsForeign t := by
  rcases hf with hl | ⟨x, hx, hn⟩
  · obtain ⟨t, ht⟩ := List.exists_mem_of_ne_nil _ hl
    exact ⟨t, mem_row.mpr (Or.inl ht), h.lead t ht⟩
  · obtain ⟨t, ht⟩ := List.exists_mem_of_ne_nil _ hn
    exact ⟨t, mem_row.mpr (Or.inr ⟨x, hx, Or.inr ht⟩), h.after x hx t ht⟩

theorem phrase_ne_member (h : a.WellFormed) (hf : a.HasForeign) (hc : a.Admits c)
    (hg : g ∈ aliasGroups) (hm : m ∈ g) : m ≠ a.phrase c := by
  rintro rfl
  obtain ⟨t, ht, hft⟩ := h.exists_foreign hf c
  exact hft.not_mem g hg _ hm ((h.tokens_phrase hc).symm ▸ ht)

theorem substitutePhrase_phrase (h : a.WellFormed) (hc : a.Admits c) (hx : x ∈ a.slots)
    (hs : c x ≠ shortest x.group) :
    substitutePhrase (a.phrase c) (c x) (shortest x.group) = a.phrase (settle x.group c) := by
  have hg := h.group_mem x hx
  have hm := hc x hx
  have hsm := shortest_mem _ hg
  have hother : ∀ y ∈ a.slots, c y = c x ∨ ¬ tokens (c x) <:+: tokens (c y) := by
    intro y hy
    by_cases hi : tokens (c x) <:+: tokens (c y)
    · exact Or.inl (congrArg c (h.eq_of_isInfix hc hx hy hm hs hi))
    · exact Or.inr hi
  have hrow : a.row c ≠ [] := (infix_row hx).ne_nil (tokens_member _ hg _ hm).1
  have hsub := substitutePhrase_join hrow (tokens_member _ hg _ hm).1 (tokens_member _ hg _ hsm).1
    (h.isToken_of_mem_row hc) (fun t => isToken_of_mem_member hg hm)
    (fun t => isToken_of_mem_member hg hsm)
  rw [join_tokens, join_tokens, h.replaceTokens_row hg hm hother] at hsub
  refine hsub.trans (phrase_congr fun y hy => ?_)
  by_cases hyx : y = x
  · subst hyx
    simp [settle]
  · have hyc : c y ≠ c x := fun he => hyx (h.eq_of_isInfix hc hx hy hm hs (he ▸ List.infix_rfl))
    have hyg : y.group ≠ x.group := fun he => hyx (h.slot_eq hy hx he)
    rw [settle, if_neg hyc, if_neg hyg]

theorem settle_mem_addSwaps (h : a.WellFormed) (hf : a.HasForeign) (hc : a.Admits c)
    (hg : g ∈ aliasGroups) (hp : a.phrase c ∈ phrases) :
    a.phrase (settle g c) ∈ addSwaps phrases g := by
  by_cases hs : ∃ x ∈ a.slots, x.group = g ∧ c x ≠ shortest g
  · obtain ⟨x, hx, rfl, hs⟩ := hs
    rw [← h.substitutePhrase_phrase hc hx hs]
    exact substitutePhrase_mem_addSwaps hp (h.longest?_eq hc hx hs)
      (h.phrase_ne_member hf hc hg (hc x hx)) (shortest_mem _ hg) hs.symm
  · have he : a.phrase (settle g c) = a.phrase c := by
      refine phrase_congr fun x hx => ?_
      rw [settle]
      split
      · next hxg => exact (not_not.mp fun hne => hs ⟨x, hx, hxg, hne⟩).symm
      · rfl
    exact he ▸ mem_addSwaps_of_mem hp

theorem settled_mem_foldl (h : a.WellFormed) (hf : a.HasForeign) (hc : a.Admits c)
    (hg : groups ⊆ aliasGroups) (hp : a.phrase c ∈ phrases) :
    a.phrase (fun x => if x.group ∈ groups then shortest x.group else c x) ∈
      groups.foldl addSwaps phrases := by
  induction groups generalizing c phrases with
  | nil => simpa using hp
  | cons g gs ih =>
    obtain ⟨hg, hgs⟩ := List.cons_subset.mp hg
    have hstep := ih (hc.settle hg) hgs (h.settle_mem_addSwaps hf hc hg hp)
    refine (phrase_congr fun x hx => ?_) ▸ hstep
    by_cases hx : x.group = g
    · simp [settle, hx]
    · simp [settle, hx]

theorem settled_mem_expansions (h : a.WellFormed) (hf : a.HasForeign) (hc : a.Admits c) :
    a.settled ∈ expansions (a.phrase c) := by
  have hall : a.settled =
      a.phrase fun x => if x.group ∈ aliasGroups then shortest x.group else c x :=
    phrase_congr fun x hx => (if_pos (h.group_mem x hx)).symm
  rw [hall]
  exact h.settled_mem_foldl hf hc (List.Subset.refl aliasGroups) (List.mem_singleton_self _)

/-! ## Meeting -/

theorem one_lt_length_row (h : a.WellFormed) (hf : a.HasForeign) (hn : a.slots ≠ [])
    (hc : a.Admits c) : 1 < (a.row c).length := by
  obtain ⟨x, hx⟩ := List.exists_mem_of_ne_nil _ hn
  have hg := h.group_mem x hx
  obtain ⟨u, hu⟩ := List.exists_mem_of_ne_nil _ (tokens_member _ hg _ (hc x hx)).1
  obtain ⟨t, ht, hft⟩ := h.exists_foreign hf c
  have hne : t ≠ u := fun he => hft.not_mem _ hg _ (hc x hx) (he ▸ hu)
  have hsub : [t, u] ⊆ a.row c := List.cons_subset.mpr ⟨ht, by simpa using (infix_row hx).subset hu⟩
  exact (List.subperm_of_subset (by simpa using hne) hsub).length_le

/-- With nothing around the places there is one place only. -/
theorem phrase_eq_choice (h : a.WellFormed) (hf : ¬ a.HasForeign) (hn : a.slots ≠ []) :
    ∃ x ∈ a.slots, ∀ c, a.phrase c = c x := by
  obtain ⟨lead, slots⟩ := a
  obtain ⟨hl, ha⟩ := not_or.mp hf
  obtain ⟨x, xs, rfl⟩ := List.exists_cons_of_ne_nil hn
  have hx : x.after = [] := not_not.mp fun hne => ha ⟨x, List.mem_cons_self, hne⟩
  have hxs : xs = [] := by
    cases xs with
    | nil => rfl
    | cons y ys => exact (h.apart x (by simp) hx).elim
  refine ⟨x, List.mem_cons_self, fun c => ?_⟩
  obtain rfl : lead = [] := not_not.mp hl
  simp [phrase, row, hx, hxs, join_tokens]

theorem phrase_ne_empty (h : a.WellFormed) (hn : a.lead ≠ [] ∨ a.slots ≠ [])
    (hc : a.Admits c) : a.phrase c ≠ "" := by
  refine join_ne_empty ?_ (h.isToken_of_mem_row hc)
  rcases hn with hl | hn
  · exact List.append_ne_nil_of_left_ne_nil hl _
  · obtain ⟨x, hx⟩ := List.exists_mem_of_ne_nil _ hn
    exact (infix_row hx).ne_nil (tokens_member _ (h.group_mem x hx) _ (hc x hx)).1

/-- Whatever stands at the places, the settled phrase is a variant. -/
theorem settled_mem_variants (h : a.WellFormed) (hn : a.lead ≠ [] ∨ a.slots ≠ [])
    (hc : a.Admits c) (hs : normalize s = a.phrase c) :
    a.settled ∈ variants s := by
  rw [mem_variants, hs, and_iff_right (h.phrase_ne_empty hn hc)]
  by_cases hslots : a.slots = []
  · refine Or.inl (phrase_congr fun x hx => ?_)
    simp [hslots] at hx
  · refine Or.inr ?_
    -- Without foreign tokens the phrase is a member itself, which no expansion touches.
    by_cases hf : a.HasForeign
    · rw [h.tokens_phrase hc]
      exact Or.inr ⟨h.one_lt_length_row hf hslots hc, Or.inr (h.settled_mem_expansions hf hc)⟩
    · obtain ⟨x, hx, hp⟩ := h.phrase_eq_choice hf hslots
      have hg := h.group_mem x hx
      rw [settled, hp, hp, aliasesOf_eq _ hg _ (hc x hx)]
      exact Or.inl (shortest_mem _ hg)

end WellFormed

end Alternation

end Shortlist.Skill
