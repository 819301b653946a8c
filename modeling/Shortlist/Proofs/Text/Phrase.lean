import Mathlib.Data.List.Lattice
import Shortlist.Proofs.Text.Tokens

/-! # Phrases inside phrases

Searching and replacing work on characters, with spaces around both texts. On normal forms they are
operations on tokens: a phrase is found where its tokens stand in a row, and replacing swaps rows of
tokens from left to right, except that the token behind a swapped row is never looked at.
-/

namespace Shortlist.Text

section Bars

variable {α : Type} {old ts us : List α}

/-- Some tokens bar a row if no occurrence of it can run into them. -/
def Bars (old ts : List α) : Prop := ∀ t ∈ ts.head?, t ∉ old

theorem Bars.eq_nil_of_isPrefix (h : Bars old ts) (hs : us ⊆ old) (hp : us <+: ts) : us = [] := by
  cases us with
  | nil => rfl
  | cons u us =>
    obtain ⟨rest, rfl⟩ := hp
    exact (h u rfl (hs List.mem_cons_self)).elim

theorem Bars.prefix_append (h : Bars old ts) (hp : old <+: us ++ ts) : old <+: us := by
  rcases List.prefix_or_prefix_of_prefix hp (List.prefix_append us ts) with hle | ⟨rest, rfl⟩
  · exact hle
  · have hr : rest = [] := h.eq_nil_of_isPrefix (List.subset_append_right us rest)
      ((List.prefix_append_right_inj us).mp hp)
    simp [hr]

theorem Bars.infix_append (h : Bars old ts) (hi : old <:+: us ++ ts) :
    old <:+: us ∨ old <:+: ts := by
  rcases List.infix_append_iff.mp hi with hu | ht | ⟨x, y, rfl, hx, hy⟩
  · exact Or.inl hu
  · exact Or.inr ht
  · rw [h.eq_nil_of_isPrefix (List.subset_append_right x y) hy, List.append_nil]
    exact Or.inl hx.isInfix

theorem infix_of_disjoint_append (h : old.Disjoint us) (hi : old <:+: us ++ ts) : old <:+: ts := by
  rcases List.infix_append_iff.mp hi with hu | ht | ⟨x, y, rfl, hx, hy⟩
  · rw [List.eq_nil_iff_forall_not_mem.mpr fun t ht => h ht (hu.subset ht)]
    exact List.nil_infix
  · exact ht
  · have hx' : x = [] := List.eq_nil_iff_forall_not_mem.mpr fun t ht =>
      h (List.mem_append_left y ht) (hx.subset ht)
    rw [hx', List.nil_append]
    exact hy.isInfix

end Bars

section Replace

variable {α : Type} [DecidableEq α]

/-- Swaps rows of tokens from left to right. A positive count tells how many tokens to pass, of
which the last is kept and the others belong to a row already swapped. -/
def replaceTokens (old new : List α) : Nat → List α → List α
  | _, [] => []
  | 0, t :: ts =>
    if old <+: t :: ts then new ++ replaceTokens old new old.length ts
    else t :: replaceTokens old new 0 ts
  | 1, t :: ts => t :: replaceTokens old new 0 ts
  | k + 2, _ :: ts => replaceTokens old new (k + 1) ts

variable {old new ts us : List α} {t : α}

@[simp] theorem replaceTokens_nil (k : Nat) : replaceTokens old new k [] = [] := by
  cases k <;> rfl

theorem replaceTokens_cons (h : ¬ old <+: t :: ts) :
    replaceTokens old new 0 (t :: ts) = t :: replaceTokens old new 0 ts := by
  rw [replaceTokens, if_neg h]

theorem replaceTokens_skip : replaceTokens old new (us.length + 1) (us ++ ts) =
    replaceTokens old new 1 ts := by
  induction us with
  | nil => rfl
  | cons u us ih => exact ih

theorem replaceTokens_append (hn : old ≠ []) :
    replaceTokens old new 0 (old ++ ts) = new ++ replaceTokens old new 1 ts := by
  obtain ⟨o, os, rfl⟩ := List.exists_cons_of_ne_nil hn
  rw [List.cons_append, replaceTokens, if_pos (by simp), List.length_cons, replaceTokens_skip]

theorem replaceTokens_append_left (h : ∀ v, v ≠ [] → v <:+ us → ¬ old <+: v ++ ts) :
    replaceTokens old new 0 (us ++ ts) = us ++ replaceTokens old new 0 ts := by
  induction us with
  | nil => rfl
  | cons u us ih =>
    have hu : ¬ old <+: u :: (us ++ ts) := h (u :: us) (by simp) List.suffix_rfl
    rw [List.cons_append, replaceTokens_cons hu,
      ih fun v hv hs => h v hv (hs.trans (List.suffix_cons u us)), List.cons_append]

theorem mem_replaceTokens {k : Nat} (h : t ∈ replaceTokens old new k ts) : t ∈ new ∨ t ∈ ts := by
  induction ts generalizing k with
  | nil => simp at h
  | cons u ts ih =>
    have hrest {k} (h : t ∈ replaceTokens old new k ts) : t ∈ new ∨ t ∈ u :: ts :=
      (ih h).imp_right (List.mem_cons_of_mem u)
    match k with
    | 0 =>
      rw [replaceTokens] at h
      split at h
      · rcases List.mem_append.mp h with h | h
        · exact Or.inl h
        · exact hrest h
      · rcases List.mem_cons.mp h with rfl | h
        · exact Or.inr List.mem_cons_self
        · exact hrest h
    | 1 =>
      rcases List.mem_cons.mp h with rfl | h
      · exact Or.inr List.mem_cons_self
      · exact hrest h
    | k + 2 => exact hrest h

theorem replaceTokens_one (h : ¬ old <+: ts) :
    replaceTokens old new 1 ts = replaceTokens old new 0 ts := by
  cases ts with
  | nil => rfl
  | cons t ts =>
    rw [replaceTokens_cons h]
    rfl

theorem Bars.replaceTokens_one (h : Bars old ts) (hn : old ≠ []) :
    replaceTokens old new 1 ts = replaceTokens old new 0 ts :=
  Text.replaceTokens_one fun hp => hn (h.eq_nil_of_isPrefix (List.Subset.refl old) hp)

/-- Behind a bar replacing begins anew. -/
theorem Bars.replaceTokens_append (h : Bars old ts) (hu : ¬ old <:+: us) :
    replaceTokens old new 0 (us ++ ts) = us ++ replaceTokens old new 0 ts := by
  refine replaceTokens_append_left fun v _ hv hp => hu ?_
  exact (h.prefix_append hp).isInfix.trans hv.isInfix

theorem replaceTokens_disjoint_append (hn : old ≠ []) (h : old.Disjoint us) :
    replaceTokens old new 0 (us ++ ts) = us ++ replaceTokens old new 0 ts := by
  refine replaceTokens_append_left fun v hv hs hp => ?_
  obtain ⟨u, v, rfl⟩ := List.exists_cons_of_ne_nil hv
  have hb : Bars old (u :: v ++ ts) := fun t ht hm => by
    obtain rfl : u = t := by simpa using ht
    exact h hm (hs.subset List.mem_cons_self)
  exact hn (hb.eq_nil_of_isPrefix (List.Subset.refl old) hp)

end Replace

/-! ## From characters to words -/

section Closed

variable {o n ws : List (List Char)} {a b x y part cs : List Char}

theorem padded_intercalate (h : ws ≠ []) : padded ([' '].intercalate ws) = ' ' :: closed ws := by
  rw [closed_eq_intercalate h, padded, List.cons_append]

theorem append_space_prefix_iff (ha : ' ' ∉ a) (hb : ' ' ∉ b) :
    a ++ ' ' :: x <+: b ++ ' ' :: y ↔ a = b ∧ x <+: y := by
  induction a generalizing b with
  | nil =>
    cases b with
    | nil => simp [List.cons_prefix_cons]
    | cons d b =>
      rw [List.mem_cons, not_or] at hb
      simp [List.cons_prefix_cons, hb.1]
  | cons c a ih =>
    rw [List.mem_cons, not_or] at ha
    cases b with
    | nil => simp [List.cons_prefix_cons, Ne.symm ha.1]
    | cons d b =>
      rw [List.mem_cons, not_or] at hb
      rw [List.cons_append, List.cons_append, List.cons_prefix_cons, ih ha.2 hb.2,
        List.cons.injEq, and_assoc]

theorem closed_prefix_iff (ho : ∀ w ∈ o, IsWord w) (hw : ∀ w ∈ ws, IsWord w) :
    closed o <+: closed ws ↔ o <+: ws := by
  induction o generalizing ws with
  | nil => simp
  | cons a o ih =>
    obtain ⟨ha, ho⟩ := List.forall_mem_cons.mp ho
    cases ws with
    | nil => simp
    | cons b ws =>
      obtain ⟨hb, hw⟩ := List.forall_mem_cons.mp hw
      rw [closed_cons, closed_cons, append_space_prefix_iff ha.space_not_mem hb.space_not_mem,
        ih ho hw, List.cons_prefix_cons]

theorem occursIn_append (h : ' ' ∉ a) :
    occursIn (' ' :: part) (a ++ cs) = occursIn (' ' :: part) cs := by
  induction a with
  | nil => rfl
  | cons c a ih =>
    rw [List.mem_cons, not_or] at h
    rw [List.cons_append, occursIn, ih h.2]
    simp [List.isPrefixOf, h.1]

theorem occursIn_closed_iff (hn : o ≠ []) (ho : ∀ w ∈ o, IsWord w) (hw : ∀ w ∈ ws, IsWord w) :
    occursIn (' ' :: closed o) (' ' :: closed ws) = true ↔ o <:+: ws := by
  induction ws with
  | nil =>
    obtain ⟨w, os, rfl⟩ := List.exists_cons_of_ne_nil hn
    simp [occursIn, List.isPrefixOf]
  | cons w ws ih =>
    obtain ⟨hw', hws⟩ := List.forall_mem_cons.mp hw
    rw [occursIn, Bool.or_eq_true, List.isPrefixOf_iff_prefix, List.cons_prefix_cons,
      closed_prefix_iff ho hw, closed_cons, occursIn_append hw'.space_not_mem, ih hws,
      List.infix_cons_iff]
    simp

theorem replaceFrom_append (h : ' ' ∉ a) :
    replaceFrom (' ' :: part) x 0 (a ++ cs) = a ++ replaceFrom (' ' :: part) x 0 cs := by
  induction a with
  | nil => rfl
  | cons c a ih =>
    rw [List.mem_cons, not_or] at h
    rw [List.cons_append, replaceFrom, ih h.2]
    simp [List.isPrefixOf, h.1]

theorem replaceFrom_skip : replaceFrom part x a.length (a ++ cs) = replaceFrom part x 0 cs := by
  induction a with
  | nil => rfl
  | cons c a ih => exact ih

theorem replaceFrom_of_isPrefix (h : part <+: cs) (hn : part ≠ []) :
    replaceFrom part x 0 cs = x ++ replaceFrom part x 0 (cs.drop part.length) := by
  obtain ⟨c, ps, rfl⟩ := List.exists_cons_of_ne_nil hn
  obtain ⟨rest, rfl⟩ := h
  rw [List.cons_append, replaceFrom, if_pos (by simp [List.isPrefixOf_iff_prefix])]
  simp [replaceFrom_skip]

theorem replaceFrom_of_not_isPrefix {c : Char} (h : ¬ part <+: c :: cs) :
    replaceFrom part x 0 (c :: cs) = c :: replaceFrom part x 0 cs := by
  rw [replaceFrom, if_neg (by rwa [List.isPrefixOf_iff_prefix])]

/-- On padded words replacing characters is replacing tokens. -/
theorem replaceFrom_closed (hn : o ≠ []) (ho : ∀ w ∈ o, IsWord w) (hw : ∀ w ∈ ws, IsWord w) :
    replaceFrom (' ' :: closed o) (' ' :: closed n) 0 (' ' :: closed ws) =
      ' ' :: closed (replaceTokens o n 0 ws) := by
  -- A swap uses up several words at once, hence induction on their number.
  induction hl : ws.length using Nat.strongRecOn generalizing ws with
  | ind l ih =>
    have hpre : ' ' :: closed o <+: ' ' :: closed ws ↔ o <+: ws := by
      rw [List.cons_prefix_cons, closed_prefix_iff ho hw, and_iff_right rfl]
    by_cases hp : o <+: ws
    · obtain ⟨rest, rfl⟩ := hp
      have hdrop : (' ' :: closed (o ++ rest)).drop (' ' :: closed o).length = closed rest := by
        simp [closed]
      rw [replaceFrom_of_isPrefix (hpre.mpr (List.prefix_append o rest)) (by simp), hdrop,
        replaceTokens_append hn]
      cases rest with
      | nil => simp [replaceFrom]
      | cons x rest =>
        obtain ⟨hx, hrest⟩ := List.forall_mem_cons.mp (List.forall_mem_append.mp hw).2
        have hlt : rest.length < l := by
          rw [← hl]
          simp
          omega
        rw [closed_cons, replaceFrom_append hx.space_not_mem, ih _ hlt hrest rfl, replaceTokens]
        simp [closed]
    · rw [replaceFrom_of_not_isPrefix fun h => hp (hpre.mp h)]
      cases ws with
      | nil => simp [replaceFrom]
      | cons w ws =>
        obtain ⟨hw', hws⟩ := List.forall_mem_cons.mp hw
        have hlt : ws.length < l := by
          rw [← hl]
          simp
        rw [closed_cons, replaceFrom_append hw'.space_not_mem, ih _ hlt hws rfl,
          replaceTokens_cons hp, closed_cons]

end Closed

/-! ## From words to phrases -/

section Phrase

variable {ts us vs : List String}

theorem padded_join (hn : ts ≠ []) :
    padded (join " " ts).toList = ' ' :: closed (ts.map String.toList) := by
  rw [toList_join, padded_intercalate (by simpa using hn)]

theorem map_ofList_toList : (ts.map String.toList).map String.ofList = ts := by
  simp [Function.comp_def]

theorem map_toList_prefix_iff (us ts : List String) :
    us.map String.toList <+: ts.map String.toList ↔ us <+: ts :=
  ⟨fun h => by simpa only [map_ofList_toList] using h.map String.ofList, fun h => h.map _⟩

theorem map_toList_infix_iff : us.map String.toList <:+: ts.map String.toList ↔ us <:+: ts :=
  ⟨fun h => by simpa only [map_ofList_toList] using h.map String.ofList, fun h => h.map _⟩

theorem replaceTokens_map_toList (k : Nat) :
    replaceTokens (us.map String.toList) (vs.map String.toList) k (ts.map String.toList) =
      (replaceTokens us vs k ts).map String.toList := by
  induction ts generalizing k with
  | nil => simp
  | cons t ts ih =>
    match k with
    | 0 =>
      have hp : us.map String.toList <+: t.toList :: ts.map String.toList ↔ us <+: t :: ts :=
        map_toList_prefix_iff us (t :: ts)
      rw [List.map_cons, replaceTokens, replaceTokens]
      by_cases h : us <+: t :: ts
      · rw [if_pos h, if_pos (hp.mpr h), List.length_map, ih, List.map_append]
      · rw [if_neg h, if_neg fun h' => h (hp.mp h'), ih, List.map_cons]
    | 1 => rw [List.map_cons, replaceTokens, ih, replaceTokens, List.map_cons]
    | k + 2 => rw [List.map_cons, replaceTokens, ih, replaceTokens]

theorem join_ne_empty (hn : ts ≠ []) (ht : ∀ t ∈ ts, IsToken t) : join " " ts ≠ "" := by
  intro he
  apply hn
  rw [← tokens_join ht, he]
  rfl

/-- A phrase stands in a text in normal form exactly where its tokens stand in a row. -/
theorem containsPhrase_join_iff (ht : ∀ t ∈ ts, IsToken t) (hu : ∀ u ∈ us, IsToken u) :
    containsPhrase (join " " ts) (join " " us) = true ↔ us ≠ [] ∧ us <:+: ts := by
  by_cases hn : us = []
  · subst hn
    simp [containsPhrase, join]
  have hneedle : (join " " us).isEmpty = false := by simpa using join_ne_empty hn hu
  rw [containsPhrase, padded_join hn, hneedle, Bool.not_false, Bool.true_and, and_iff_right hn]
  have hw := isWord_of_mem_map hu
  by_cases hts : ts = []
  · subst hts
    obtain ⟨u, rest, rfl⟩ := List.exists_cons_of_ne_nil hn
    obtain ⟨c, w, hc⟩ := List.exists_cons_of_ne_nil (hu u List.mem_cons_self).ne_nil
    simp [join, padded, occursIn, List.isPrefixOf, hc]
  · rw [padded_join hts, occursIn_closed_iff (by simpa using hn) hw (isWord_of_mem_map ht),
      map_toList_infix_iff]

theorem substitutePhrase_join (hts : ts ≠ []) (hus : us ≠ []) (hvs : vs ≠ [])
    (ht : ∀ t ∈ ts, IsToken t) (hu : ∀ u ∈ us, IsToken u) (hv : ∀ v ∈ vs, IsToken v) :
    substitutePhrase (join " " ts) (join " " us) (join " " vs) =
      join " " (replaceTokens us vs 0 ts) := by
  have hr : ∀ w ∈ (replaceTokens us vs 0 ts).map String.toList, IsWord w :=
    isWord_of_mem_map fun t h => (mem_replaceTokens h).elim (hv t) (ht t)
  rw [substitutePhrase, replaceAll, padded_join hts, padded_join hus, padded_join hvs,
    replaceFrom_closed (by simpa using hus) (isWord_of_mem_map hu) (isWord_of_mem_map ht),
    replaceTokens_map_toList, stripChars_space_cons, stripChars_closed hr, ← toList_join,
    String.ofList_toList]

end Phrase

end Shortlist.Text
