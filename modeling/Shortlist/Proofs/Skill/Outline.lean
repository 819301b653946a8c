import Mathlib.Logic.Function.Basic
import Shortlist.Proofs.Skill.Alternation

/-! # Outlines

An outline leaves open which members stand at the places for some alias groups. Where members of
these groups can be found nowhere but at their places, expanding swaps all places of a group at once
and nothing else. So each phrase of such an outline expands to every other, also where a group has
several places, as long as these hold the same member.
-/

namespace Shortlist.Skill

open Text

inductive Part
  | word (t : String)
  | place (group : List String)

def Part.spell (c : List String → String) : Part → List String
  | word t => [t]
  | place g => tokens (c g)

/-- The parts of a phrase in order. -/
abbrev Outline := List Part

section Infix

variable {α : Type} {old us ts : List α}

theorem exists_suffix_of_infix_append (h : old <:+: us ++ ts) :
    (∃ v, v ≠ [] ∧ v <:+ us ∧ old <+: v ++ ts) ∨ old <:+: ts := by
  induction us with
  | nil => exact Or.inr h
  | cons u us ih =>
    rcases List.infix_cons_iff.mp h with hp | hi
    · exact Or.inl ⟨u :: us, by simp, List.suffix_rfl, hp⟩
    · refine (ih hi).imp_left ?_
      rintro ⟨v, hv, hs, hp⟩
      exact ⟨v, hv, hs.trans (List.suffix_cons u us), hp⟩

end Infix

namespace Outline

/-- The tokens when the places of every group hold the member chosen for it. -/
def row (o : Outline) (c : List String → String) : List String := o.flatMap (Part.spell c)

def phrase (o : Outline) (c : List String → String) : String := join " " (o.row c)

def Admits (o : Outline) (c : List String → String) : Prop := ∀ g, .place g ∈ o → c g ∈ g

/-- Whichever members are chosen, a member of a group with places begins only at one of them, and
ends there. No two places of one group are neighbours. -/
structure Apart (o : Outline) : Prop where
  token : ∀ t, .word t ∈ o → IsToken t
  group_mem : ∀ g, .place g ∈ o → g ∈ aliasGroups
  start : ∀ c, o.Admits c → ∀ p rest, p :: rest <:+ o → ∀ v, v ≠ [] → v <:+ p.spell c →
    ∀ g, .place g ∈ o → ∀ m ∈ g, tokens m <+: v ++ row rest c → p = .place g ∧ tokens m <+: v
  single : ∀ g, ¬ [.place g, .place g] <:+: o

/-- Besides, members of other groups stand only inside of places. -/
structure Clear (o : Outline) : Prop extends o.Apart where
  inside : ∀ c, o.Admits c → ∀ p rest, p :: rest <:+ o → ∀ v, v ≠ [] → v <:+ p.spell c →
    ∀ g ∈ aliasGroups, ∀ m ∈ g, tokens m <+: v ++ row rest c → ∃ h, p = .place h ∧ tokens m <+: v

variable {o rest : Outline} {p : Part} {c d : List String → String} {g : List String}
  {m n new s : String} {old v : List String}

theorem row_cons : row (p :: rest) c = p.spell c ++ row rest c := rfl

theorem spell_infix_row (hp : p ∈ o) : p.spell c <:+: o.row c := by
  obtain ⟨xs, ys, rfl⟩ := List.append_of_mem hp
  exact ⟨row xs c, row ys c, by simp [row]⟩

theorem phrase_congr (h : ∀ g, .place g ∈ o → c g = d g) : o.phrase c = o.phrase d := by
  have hrow : o.row c = o.row d := by
    apply List.flatMap_congr
    intro p hp
    cases p with
    | word t => rfl
    | place g => exact congrArg tokens (h g hp)
  rw [phrase, hrow, phrase]

theorem spell_update (hp : p ≠ .place g) : p.spell (Function.update c g new) = p.spell c := by
  cases p with
  | word t => rfl
  | place k =>
    have hk : k ≠ g := fun he => hp (he ▸ rfl)
    rw [Part.spell, Part.spell, Function.update_of_ne hk]

theorem Admits.update (hc : o.Admits c) (hn : .place g ∈ o → new ∈ g) :
    o.Admits (Function.update c g new) := by
  intro h hh
  by_cases he : h = g
  · subst he
    rw [Function.update_self]
    exact hn hh
  · rw [Function.update_of_ne he]
    exact hc h hh

theorem exists_start (hn : old ≠ []) (h : old <:+: o.row c) :
    ∃ p rest v, p :: rest <:+ o ∧ v ≠ [] ∧ v <:+ p.spell c ∧ old <+: v ++ row rest c := by
  induction o with
  | nil => exact (hn (List.infix_nil.mp h)).elim
  | cons p rest ih =>
    rcases exists_suffix_of_infix_append (row_cons ▸ h) with ⟨v, hv, hs, hp⟩ | hi
    · exact ⟨p, rest, v, List.suffix_rfl, hv, hs, hp⟩
    · obtain ⟨q, rest', v, hq, h⟩ := ih hi
      exact ⟨q, rest', v, hq.trans (List.suffix_cons p rest), h⟩

namespace Apart

theorem isToken_of_mem_row (h : o.Apart) (hc : o.Admits c) : ∀ t ∈ o.row c, IsToken t := by
  intro t ht
  obtain ⟨p, hp, ht⟩ := List.mem_flatMap.mp ht
  cases p with
  | word u => exact List.mem_singleton.mp ht ▸ h.token u hp
  | place g => exact isToken_of_mem_member (h.group_mem g hp) (hc g hp) ht

theorem tokens_phrase (h : o.Apart) (hc : o.Admits c) : tokens (o.phrase c) = o.row c :=
  tokens_join (h.isToken_of_mem_row hc)

theorem spell_ne_nil (h : o.Apart) (hc : o.Admits c) (hp : p ∈ o) : p.spell c ≠ [] := by
  cases p with
  | word t => exact List.cons_ne_nil t []
  | place g => exact (tokens_member g (h.group_mem g hp) _ (hc g hp)).1

theorem length_le_length_row (h : o.Apart) (hc : o.Admits c) (hs : rest ⊆ o) :
    rest.length ≤ (row rest c).length := by
  induction rest with
  | nil => exact Nat.zero_le _
  | cons p rest ih =>
    obtain ⟨hp, hrest⟩ := List.cons_subset.mp hs
    have hpos := List.length_pos_of_ne_nil (h.spell_ne_nil hc hp)
    have hle := ih hrest
    rw [row_cons, List.length_append, List.length_cons]
    omega

theorem infix_of_infix_row (h : o.Apart) (hc : o.Admits c) (hg : .place g ∈ o) (hm : m ∈ g)
    (hi : tokens m <:+: o.row c) : tokens m <:+: tokens (c g) := by
  obtain ⟨p, rest, v, hp, hv, hs, hpre⟩ :=
    exists_start (tokens_member g (h.group_mem g hg) m hm).1 hi
  obtain ⟨rfl, hpre⟩ := h.start c hc p rest hp v hv hs g hg m hm hpre
  exact hpre.isInfix.trans hs.isInfix

theorem start_choice (h : o.Apart) (hc : o.Admits c) (hg : .place g ∈ o) (hp : p :: rest <:+ o)
    (hv : v ≠ []) (hs : v <:+ p.spell c) (hpre : tokens (c g) <+: v ++ row rest c) :
    p = .place g := (h.start c hc p rest hp v hv hs g hg _ (hc g hg) hpre).1

theorem not_prefix_row (h : o.Apart) (hc : o.Admits c) (hg : .place g ∈ o) (hr : rest <:+ o)
    (hne : ∀ rest', rest ≠ .place g :: rest') : ¬ tokens (c g) <+: row rest c := by
  intro hpre
  cases rest with
  | nil =>
    exact (tokens_member g (h.group_mem g hg) _ (hc g hg)).1 (List.prefix_nil.mp hpre)
  | cons p rest =>
    have hp : p ∈ o := hr.subset List.mem_cons_self
    have he := h.start_choice hc hg hr (h.spell_ne_nil hc hp) List.suffix_rfl hpre
    exact hne rest (he ▸ rfl)

/-- The token behind a place is kept unseen, but no other place of the group follows. -/
theorem replaceTokens_one_row (h : o.Apart) (hc : o.Admits c) (hr : .place g :: rest <:+ o) :
    replaceTokens (tokens (c g)) (tokens new) 1 (row rest c) =
      replaceTokens (tokens (c g)) (tokens new) 0 (row rest c) := by
  have hnext : ∀ rest', rest ≠ .place g :: rest' := by
    rintro rest' rfl
    have hpair : [.place g, .place g] <+: .place g :: .place g :: rest' :=
      List.prefix_append _ rest'
    exact h.single g (hpair.isInfix.trans hr.isInfix)
  have hnot := h.not_prefix_row hc (hr.subset List.mem_cons_self)
    ((List.suffix_cons _ rest).trans hr) hnext
  cases hrow : row rest c with
  | nil => rfl
  | cons t ts =>
    rw [replaceTokens_cons (hrow ▸ hnot)]
    rfl

theorem replaceTokens_row (h : o.Apart) (hc : o.Admits c) (hg : .place g ∈ o) :
    replaceTokens (tokens (c g)) (tokens new) 0 (o.row c) = o.row (Function.update c g new) := by
  have hn := (tokens_member g (h.group_mem g hg) _ (hc g hg)).1
  have hall : ∀ rest, rest <:+ o → replaceTokens (tokens (c g)) (tokens new) 0 (row rest c) =
      row rest (Function.update c g new) := by
    intro rest
    induction rest with
    | nil => exact fun _ => rfl
    | cons p rest ih =>
      intro hr
      have hrest := (List.suffix_cons p rest).trans hr
      by_cases hp : p = .place g
      · subst hp
        rw [row_cons, row_cons, Part.spell, Part.spell, Function.update_self,
          replaceTokens_append hn, h.replaceTokens_one_row hc hr, ih hrest]
      · have hstay : ∀ v, v ≠ [] → v <:+ p.spell c → ¬ tokens (c g) <+: v ++ row rest c :=
          fun v hv hs hpre => hp (h.start_choice hc hg hr hv hs hpre)
        rw [row_cons, row_cons, spell_update hp, replaceTokens_append_left hstay, ih hrest]
  exact hall o List.suffix_rfl

/-! ### Expanding -/

theorem longest?_eq (h : o.Apart) (hc : o.Admits c) (hg : .place g ∈ o) :
    longest? (g.filter (containsPhrase (o.phrase c))) = some (c g) := by
  have hgroup := h.group_mem g hg
  have hcontains : ∀ m ∈ g,
      containsPhrase (o.phrase c) m = true ↔ tokens m ≠ [] ∧ tokens m <:+: o.row c := by
    intro m hm
    rw [phrase, ← join_tokens m, containsPhrase_join_iff (h.isToken_of_mem_row hc)
      fun t => isToken_of_mem_member hgroup hm, join_tokens]
  apply longest?_eq_some
  · refine List.mem_filter.mpr ⟨hc g hg, (hcontains _ (hc g hg)).mpr ?_⟩
    exact ⟨(tokens_member g hgroup _ (hc g hg)).1, spell_infix_row hg⟩
  · intro n hn hne
    obtain ⟨hn, hi⟩ := List.mem_filter.mp hn
    have hi' := h.infix_of_infix_row hc hg hn ((hcontains n hn).mp hi).2
    exact length_lt_of_isInfix g hgroup n hn _ (hc g hg) hi' hne

theorem substitutePhrase_phrase (h : o.Apart) (hc : o.Admits c) (hg : .place g ∈ o)
    (hn : new ∈ g) :
    substitutePhrase (o.phrase c) (c g) new = o.phrase (Function.update c g new) := by
  have hgroup := h.group_mem g hg
  have hold := (tokens_member g hgroup _ (hc g hg)).1
  have hrow : o.row c ≠ [] := (spell_infix_row hg : tokens (c g) <:+: o.row c).ne_nil hold
  have hsub := substitutePhrase_join hrow hold (tokens_member g hgroup new hn).1
    (h.isToken_of_mem_row hc) (fun t => isToken_of_mem_member hgroup (hc g hg))
    (fun t => isToken_of_mem_member hgroup hn)
  rwa [join_tokens, join_tokens, h.replaceTokens_row hc hg] at hsub

theorem choice_ne_phrase (h : o.Apart) (hc : o.Admits c) (hg : .place g ∈ o)
    (hlong : 1 < o.length) : c g ≠ o.phrase c := by
  intro he
  obtain ⟨xs, ys, rfl⟩ := List.append_of_mem hg
  have hxs := h.length_le_length_row hc (List.subset_append_left xs _)
  have hys := h.length_le_length_row hc
    (List.Subset.trans (List.subset_cons_self _ ys) (List.subset_append_right xs _))
  have hlength : (row xs c).length + ((tokens (c g)).length + (row ys c).length) =
      (tokens (c g)).length := by
    conv_rhs => rw [he, h.tokens_phrase hc]
    simp [row, Part.spell]
  simp only [List.length_append, List.length_cons] at hlong
  omega

theorem update_mem_addSwaps {phrases : List String} (h : o.Apart) (hc : o.Admits c)
    (hlong : 1 < o.length) (hn : .place g ∈ o → new ∈ g) (hp : o.phrase c ∈ phrases) :
    o.phrase (Function.update c g new) ∈ addSwaps phrases g := by
  by_cases hg : .place g ∈ o ∧ new ≠ c g
  · obtain ⟨hg, hne⟩ := hg
    rw [← h.substitutePhrase_phrase hc hg (hn hg)]
    exact substitutePhrase_mem_addSwaps hp (h.longest?_eq hc hg) (h.choice_ne_phrase hc hg hlong)
      (hn hg) hne
  · have he : o.phrase (Function.update c g new) = o.phrase c := by
      apply phrase_congr
      intro k hk
      by_cases hkg : k = g
      · subst hkg
        rw [Function.update_self]
        exact not_not.mp fun hne => hg ⟨hk, hne⟩
      · rw [Function.update_of_ne hkg]
    exact he ▸ mem_addSwaps_of_mem hp

theorem mem_foldl_addSwaps {phrases : List String} {groups : List (List String)} (h : o.Apart)
    (hc : o.Admits c) (hd : o.Admits d) (hlong : 1 < o.length) (hp : o.phrase c ∈ phrases) :
    o.phrase (fun g => if g ∈ groups then d g else c g) ∈ groups.foldl addSwaps phrases := by
  induction groups generalizing c phrases with
  | nil => simpa using hp
  | cons g gs ih =>
    have hstep := ih (hc.update fun hg => hd g hg)
      (h.update_mem_addSwaps hc hlong (fun hg => hd g hg) hp)
    refine (phrase_congr fun k _ => ?_) ▸ hstep
    by_cases hk : k = g
    · simp [hk]
    · simp [hk]

/-- Every phrase of an outline with places apart is a variant of every other. -/
theorem phrase_mem_variants (h : o.Apart) (hc : o.Admits c) (hd : o.Admits d) (hn : o ≠ [])
    (hs : normalize s = o.phrase c) : o.phrase d ∈ variants s := by
  have hrow : o.row c ≠ [] := by
    obtain ⟨p, hp⟩ := List.exists_mem_of_ne_nil o hn
    exact (spell_infix_row hp).ne_nil (h.spell_ne_nil hc hp)
  have hne : o.phrase c ≠ "" := join_ne_empty hrow (h.isToken_of_mem_row hc)
  rw [mem_variants, hs, and_iff_right hne]
  by_cases hlong : 1 < o.length
  · refine Or.inr (Or.inr ⟨?_, Or.inr ?_⟩)
    · rw [h.tokens_phrase hc]
      exact hlong.trans_le (h.length_le_length_row hc (List.Subset.refl o))
    · have hall : o.phrase d = o.phrase fun g => if g ∈ aliasGroups then d g else c g :=
        phrase_congr fun g hg => (if_pos (h.group_mem g hg)).symm
      rw [hall]
      exact h.mem_foldl_addSwaps hc hd hlong (List.mem_singleton_self _)
  · obtain ⟨p, rfl⟩ : ∃ p, o = [p] := by
      apply List.length_eq_one_iff.mp
      have hpos := List.length_pos_of_ne_nil hn
      omega
    cases p with
    | word t => exact Or.inl rfl
    | place g =>
      have hg := List.mem_singleton_self (Part.place g)
      have hphrase : ∀ c : List String → String, phrase [.place g] c = c g := by
        intro c
        simp [phrase, row, Part.spell, join_tokens]
      rw [hphrase, hphrase, aliasesOf_eq g (h.group_mem g hg) _ (hc g hg)]
      exact Or.inr (Or.inl (hd g hg))

end Apart

/-- Nothing that holds a foreign word is a member. -/
theorem inside_place_of_foreign (hw : ∀ t, .word t ∈ o → IsForeign t)
    (hapart : ∀ g h, ¬ [.place g, .place h] <:+: o) (hr : p :: rest <:+ o) (hv : v ≠ [])
    (hs : v <:+ p.spell c) (hg : g ∈ aliasGroups) (hm : m ∈ g)
    (hpre : tokens m <+: v ++ row rest c) : ∃ k, p = .place k ∧ tokens m <+: v := by
  cases p with
  | word t =>
    have hvt : v = [t] := (List.suffix_cons_iff.mp hs).resolve_right fun he =>
      hv (List.suffix_nil.mp he)
    subst hvt
    obtain ⟨u, us, hu⟩ := List.exists_cons_of_ne_nil (tokens_member g hg m hm).1
    rw [hu, List.singleton_append, List.cons_prefix_cons] at hpre
    have ht : t ∈ tokens m := hu ▸ hpre.1 ▸ List.mem_cons_self
    exact ((hw t (hr.subset List.mem_cons_self)).not_mem g hg m hm ht).elim
  | place k =>
    refine ⟨k, rfl, ?_⟩
    cases rest with
    | nil => simpa [row] using hpre
    | cons q rest =>
      cases q with
      | word t =>
        have ht : .word t ∈ o := hr.subset (by simp)
        have hbars : Bars (tokens m) (row (.word t :: rest) c) := by
          intro u hu
          obtain rfl : t = u := by simpa [row, Part.spell] using hu
          exact (hw t ht).not_mem g hg m hm
        exact hbars.prefix_append hpre
      | place l =>
        have hpair : [.place k, .place l] <+: .place k :: .place l :: rest :=
          List.prefix_append _ rest
        exact (hapart k l (hpair.isInfix.trans hr.isInfix)).elim

theorem Clear.of_foreign (hw : ∀ t, .word t ∈ o → IsForeign t)
    (hgroup : ∀ g, .place g ∈ o → g ∈ aliasGroups)
    (hown : ∀ g h, .place g ∈ o → .place h ∈ o → g ≠ h →
      ∀ m ∈ g, ∀ n ∈ h, ¬ tokens m <:+: tokens n)
    (hapart : ∀ g h, ¬ [.place g, .place h] <:+: o) : o.Clear where
  token t ht := isToken_iff.mpr (hw t ht).token
  group_mem := hgroup
  single g := hapart g g
  inside _ _ _ _ hr _ hv hs _ hg _ hm hpre :=
    inside_place_of_foreign hw hapart hr hv hs hg hm hpre
  start c hc p rest hr v hv hs g hg m hm hpre := by
    obtain ⟨k, rfl, hpre⟩ := inside_place_of_foreign hw hapart hr hv hs (hgroup g hg) hm hpre
    by_cases he : g = k
    · exact ⟨he ▸ rfl, hpre⟩
    · have hk : .place k ∈ o := hr.subset List.mem_cons_self
      exact (hown g k hg hk he m hm _ (hc k hk) (hpre.isInfix.trans hs.isInfix)).elim

end Outline

end Shortlist.Skill
