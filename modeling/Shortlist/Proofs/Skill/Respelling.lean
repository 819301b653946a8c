import Mathlib.Data.List.Forall2
import Mathlib.Logic.Relation
import Shortlist.Proofs.Matching.Tier
import Shortlist.Proofs.Skill.Expansion

/-! # Respellings

A row of tokens that spells a member of an alias group can be swapped for another member of the
group. Every variant of a skill arises from its normal form by such swaps, so a requirement meets a
listed skill only where swaps lead from one to the other.
-/

namespace Shortlist.Skill

open Text

inductive AliasSwap : List String → List String → Prop where
  | swap {g : List String} {m n : String} (us ws : List String) (hg : g ∈ aliasGroups) (hm : m ∈ g)
      (hn : n ∈ g) : AliasSwap (us ++ tokens m ++ ws) (us ++ tokens n ++ ws)

/-- Finitely many swaps lead from the first row of tokens to the second. -/
def Respells : List String → List String → Prop := Relation.ReflTransGen AliasSwap

section Respells

variable {g : List String} {m n t u v s : String} {ts us vs ws : List String}

theorem AliasSwap.symm (h : AliasSwap ts us) : AliasSwap us ts := by
  obtain ⟨vs, ws, hg, hm, hn⟩ := h
  exact .swap vs ws hg hn hm

theorem AliasSwap.append_left (vs : List String) (h : AliasSwap ts us) :
    AliasSwap (vs ++ ts) (vs ++ us) := by
  obtain ⟨xs, ws, hg, hm, hn⟩ := h
  simpa [List.append_assoc] using AliasSwap.swap (vs ++ xs) ws hg hm hn

theorem AliasSwap.append_right (vs : List String) (h : AliasSwap ts us) :
    AliasSwap (ts ++ vs) (us ++ vs) := by
  obtain ⟨xs, ws, hg, hm, hn⟩ := h
  simpa [List.append_assoc] using AliasSwap.swap xs (ws ++ vs) hg hm hn

theorem AliasSwap.exists_infix (h : AliasSwap ts us) :
    ∃ g ∈ aliasGroups, ∃ m ∈ g, tokens m <:+: ts := by
  obtain ⟨xs, ws, hg, hm, _⟩ := h
  exact ⟨_, hg, _, hm, xs, ws, rfl⟩

namespace Respells

theorem refl (ts : List String) : Respells ts ts := Relation.ReflTransGen.refl

theorem trans (h : Respells ts us) (h' : Respells us vs) : Respells ts vs :=
  Relation.ReflTransGen.trans h h'

theorem symm (h : Respells ts us) : Respells us ts := by
  induction h with
  | refl => exact refl ts
  | tail _ hstep ih => exact ih.head hstep.symm

theorem append (h : Respells ts us) (h' : Respells vs ws) : Respells (ts ++ vs) (us ++ ws) :=
  trans (Relation.ReflTransGen.lift (· ++ vs) (fun _ _ => AliasSwap.append_right vs) _ _ h)
    (Relation.ReflTransGen.lift (us ++ ·) (fun _ _ => AliasSwap.append_left us) _ _ h')

theorem cons (t : String) (h : Respells ts us) : Respells (t :: ts) (t :: us) :=
  (refl [t]).append h

theorem of_mem (hg : g ∈ aliasGroups) (hm : m ∈ g) (hn : n ∈ g) :
    Respells (tokens m) (tokens n) := by
  have h := AliasSwap.swap [] [] hg hm hn
  rw [List.nil_append, List.append_nil, List.nil_append, List.append_nil] at h
  exact Relation.ReflTransGen.single h

theorem isToken (h : Respells ts us) (ht : ∀ t ∈ ts, IsToken t) : ∀ u ∈ us, IsToken u := by
  induction h with
  | refl => exact ht
  | tail _ hstep ih =>
    obtain ⟨xs, ws, hg, _, hn⟩ := hstep
    simp only [List.forall_mem_append] at ih ⊢
    exact ⟨⟨ih.1.1, fun t => isToken_of_mem_member hg hn⟩, ih.2⟩

theorem ne_nil (h : Respells ts us) (hn : ts ≠ []) : us ≠ [] := by
  induction h with
  | refl => exact hn
  | tail _ hstep _ =>
    obtain ⟨xs, ws, hg, _, hn⟩ := hstep
    simp [(tokens_member _ hg _ hn).1]

/-- Replacing a member by another is a row of swaps, even where occurrences overlap. -/
theorem replaceTokens (hg : g ∈ aliasGroups) (hm : m ∈ g) (hn : n ∈ g) (ts : List String) :
    Respells ts (Text.replaceTokens (tokens m) (tokens n) 0 ts) := by
  -- A swap uses up several tokens at once, hence induction on their number.
  induction hl : ts.length using Nat.strongRecOn generalizing ts with
  | ind l ih =>
    have hne := (tokens_member g hg m hm).1
    by_cases hp : tokens m <+: ts
    · obtain ⟨rest, rfl⟩ := hp
      rw [replaceTokens_append hne]
      refine (of_mem hg hm hn).append ?_
      cases rest with
      | nil => exact refl []
      | cons t rest =>
        have hlt : rest.length < l := by
          rw [← hl]
          simp
          omega
        exact (ih _ hlt rest rfl).cons t
    · cases ts with
      | nil => exact refl []
      | cons t ts =>
        have hlt : ts.length < l := by
          rw [← hl]
          simp
        rw [replaceTokens_cons hp]
        exact (ih _ hlt ts rfl).cons t

theorem of_forall₂ (h : List.Forall₂ (fun t u => Respells [t] [u]) ts us) : Respells ts us := by
  induction h with
  | nil => exact refl []
  | cons htu _ ih => exact htu.append ih

end Respells

/-! ## What variants are made of -/

theorem isSingleToken_member : ∀ g ∈ aliasGroups, ∀ m ∈ g, isSingleToken m = true →
    tokens m = [m] := by decide

theorem exists_group_of_mem_aliasesOf (h : v ∈ aliasesOf s) :
    ∃ g ∈ aliasGroups, s ∈ g ∧ v ∈ g := by
  rw [aliasesOf] at h
  cases hf : aliasGroups.find? (·.contains s) with
  | none =>
    rw [hf, Option.getD_none] at h
    simp at h
  | some g =>
    rw [hf, Option.getD_some] at h
    exact ⟨g, List.mem_of_find?_eq_some hf, by simpa using List.find?_some hf, h⟩

theorem respells_of_mem_aliasesOf (h : v ∈ aliasesOf s) : Respells (tokens s) (tokens v) := by
  obtain ⟨g, hg, hs, hv⟩ := exists_group_of_mem_aliasesOf h
  exact .of_mem hg hs hv

theorem respells_of_mem_tokenVariants (ht : IsToken t) (h : u ∈ tokenVariants t) :
    Respells [t] [u] := by
  rcases (mem_tokenVariants ht).mp h with rfl | ⟨hu, hs⟩
  · exact .refl [u]
  · obtain ⟨g, hg, htg, hug⟩ := exists_group_of_mem_aliasesOf hu
    have hr := Respells.of_mem hg htg hug
    rwa [ht.tokens_eq, isSingleToken_member g hg u hug hs] at hr

/-- The tokens of the second row are one-token aliases of those at their places in the first. -/
def Rewords : List String → List String → Prop := List.Forall₂ fun t u => u ∈ tokenVariants t

theorem Rewords.respells (h : Rewords ts us) (ht : ∀ t ∈ ts, IsToken t) : Respells ts us :=
  .of_forall₂ (((List.forall₂_and_left _ _).mpr ⟨ht, h⟩).imp fun _ _ htu =>
    respells_of_mem_tokenVariants htu.1 htu.2)

theorem forall₂_of_mem_firstChoices {cap : Nat} {choice : List String} {lists : List (List String)}
    (h : choice ∈ firstChoices cap lists) : List.Forall₂ (fun l u => u ∈ l) lists choice := by
  induction lists generalizing choice with
  | nil =>
    rw [firstChoices, List.mem_singleton] at h
    exact h ▸ .nil
  | cons options rest ih =>
    rw [firstChoices] at h
    obtain ⟨option, ho, hc⟩ := List.mem_flatMap.mp (List.mem_of_mem_take h)
    obtain ⟨tail, ht, rfl⟩ := List.mem_map.mp hc
    exact .cons ho (ih ht)

/-- The phrases that arise from the first `cap` ways to replace the tokens by their aliases. -/
def rejoinsWithin (cap : Nat) (skill : String) : PhraseSet :=
  let parts := tokens (normalize skill)
  if parts.isEmpty then []
  else .ofList ((firstChoices cap (parts.map tokenVariants)).map (join " "))

theorem rejoins_eq (s : String) : rejoins s = rejoinsWithin maxRejoins s := rfl

theorem rewords_of_mem_rejoinsWithin {cap : Nat} (h : v ∈ rejoinsWithin cap s) :
    Rewords (tokens (normalize s)) (tokens v) := by
  have hs : ∀ t ∈ tokens (normalize s), IsToken t := fun _ => isToken_of_mem_tokens_normalize
  simp only [rejoinsWithin] at h
  split at h
  · simp at h
  obtain ⟨choice, hc, rfl⟩ := List.mem_map.mp (PhraseSet.mem_ofList.mp h)
  have hr : Rewords (tokens (normalize s)) choice :=
    List.forall₂_map_left_iff.mp (forall₂_of_mem_firstChoices hc)
  rwa [tokens_join ((hr.respells hs).isToken hs)]

theorem respells_of_mem_rejoins (h : v ∈ rejoins s) :
    Respells (tokens (normalize s)) (tokens v) :=
  (rewords_of_mem_rejoinsWithin (rejoins_eq s ▸ h)).respells fun _ =>
    isToken_of_mem_tokens_normalize

theorem longest?_mem {l : List String} (h : longest? l = some m) : m ∈ l := by
  have hn : l ≠ [] := by
    rintro rfl
    simp [longest?] at h
  obtain ⟨k, hk, he, _⟩ := exists_longest hn
  rw [he, Option.some.injEq] at h
  exact h ▸ hk

theorem respells_of_mem_swaps (hg : g ∈ aliasGroups) (hn : tokens s ≠ [])
    (ht : ∀ t ∈ tokens s, IsToken t) (h : v ∈ swaps g s) : Respells (tokens s) (tokens v) := by
  rw [swaps] at h
  split at h
  · simp at h
  next m hl =>
  split at h
  · simp at h
  obtain ⟨n, hn', rfl⟩ := List.mem_map.mp h
  have hm : m ∈ g := (List.mem_filter.mp (longest?_mem hl)).1
  have hng : n ∈ g := (List.mem_filter.mp hn').1
  have hr := Respells.replaceTokens hg hm hng (tokens s)
  have hsub := substitutePhrase_join hn (tokens_member _ hg _ hm).1 (tokens_member _ hg _ hng).1
    ht (fun t => isToken_of_mem_member hg hm) (fun t => isToken_of_mem_member hg hng)
  rw [join_tokens, join_tokens, join_tokens] at hsub
  rwa [hsub, tokens_join (hr.isToken ht)]

theorem respells_of_mem_expansions (hn : tokens s ≠ []) (ht : ∀ t ∈ tokens s, IsToken t)
    (h : v ∈ expansions s) : Respells (tokens s) (tokens v) := by
  have hstep : ∀ g ∈ aliasGroups, ∀ phrases : List String,
      (∀ v ∈ phrases, Respells (tokens s) (tokens v)) →
        ∀ v ∈ addSwaps phrases g, Respells (tokens s) (tokens v) := by
    intro g hg phrases hp v hv
    rcases List.mem_append.mp hv with hv | hv
    · exact hp v hv
    · obtain ⟨phrase, hm, hv⟩ := List.mem_flatMap.mp hv
      have hr := hp phrase hm
      exact hr.trans (respells_of_mem_swaps hg (hr.ne_nil hn) (hr.isToken ht) hv)
  have hfold : ∀ groups ⊆ aliasGroups, ∀ phrases : List String,
      (∀ v ∈ phrases, Respells (tokens s) (tokens v)) →
        ∀ v ∈ groups.foldl addSwaps phrases, Respells (tokens s) (tokens v) := by
    intro groups
    induction groups with
    | nil => exact fun _ _ hp => hp
    | cons g gs ih =>
      intro hsub phrases hp
      obtain ⟨hg, hgs⟩ := List.cons_subset.mp hsub
      exact ih hgs _ (hstep g hg phrases hp)
  refine hfold aliasGroups (List.Subset.refl _) [s] (fun v hv => ?_) v h
  rw [List.mem_singleton.mp hv]
  exact .refl _

theorem respells_of_mem_variants (h : v ∈ variants s) :
    Respells (tokens (normalize s)) (tokens v) := by
  obtain ⟨hs, rfl | ha | ⟨_, hr | he⟩⟩ := mem_variants.mp h
  · exact .refl _
  · exact respells_of_mem_aliasesOf ha
  · exact respells_of_mem_rejoins hr
  · exact respells_of_mem_expansions (tokens_normalize_ne_nil hs)
      (fun _ => isToken_of_mem_tokens_normalize) he

/-- A skill in which no alias stands has no other spelling. -/
theorem eq_normalize_of_mem_variants
    (hf : ∀ g ∈ aliasGroups, ∀ m ∈ g, ¬ tokens m <:+: tokens (normalize s)) (h : v ∈ variants s) :
    v = normalize s := by
  have htokens : tokens v = tokens (normalize s) := by
    rcases Relation.ReflTransGen.cases_head (respells_of_mem_variants h) with he | ⟨us, hswap, _⟩
    · exact he.symm
    · obtain ⟨g, hg, m, hm, hin⟩ := hswap.exists_infix
      exact (hf g hg m hm hin).elim
  rw [← join_tokens v, htokens, join_tokens]

theorem variants_eq_nil_iff : variants s = [] ↔ normalize s = "" := by
  constructor
  · intro h
    by_contra hs
    have hm := normalize_mem_variants hs
    simp [h] at hm
  · intro h
    simp [variants, h]

/-- Only skills without words have no variants. All others have their normal form as a variant, and
every variant is a normal form that arises from it by swapping aliases. Skills that count as listed
are therefore respellings of the requirement. -/
theorem variants_are_respellings (s : String) :
    (variants s = [] ↔ normalize s = "") ∧
    (normalize s ≠ "" → normalize s ∈ variants s) ∧
    (∀ v ∈ variants s,
      v ≠ "" ∧ normalize v = v ∧ Respells (tokens (normalize s)) (tokens v)) ∧
    ∀ p : Profile, Tier.ofSkill (.ofProfile p) s = .listed →
      ∃ t ∈ p.skills, Respells (tokens (normalize s)) (tokens (normalize t)) := by
  refine ⟨variants_eq_nil_iff, normalize_mem_variants, fun v hv => ?_, fun p hp => ?_⟩
  · have hs := tokens_normalize_ne_nil (mem_variants.mp hv).1
    have hr := respells_of_mem_variants hv
    have ht := hr.isToken fun _ => isToken_of_mem_tokens_normalize
    refine ⟨?_, ?_, hr⟩
    · rintro rfl
      exact hr.ne_nil hs rfl
    · rw [← join_tokens v]
      exact normalize_join ht
  · obtain ⟨v, hv, hp⟩ := Tier.ofSkill_eq_listed_iff.mp hp
    obtain ⟨t, ht, hvt⟩ := List.mem_flatMap.mp (PhraseSet.mem_ofList.mp hp)
    exact ⟨t, ht, (respells_of_mem_variants hv).trans (respells_of_mem_variants hvt).symm⟩

theorem variants_are_respellings_pipelines :
    normalize "CI/CD Pipelines" ≠ "" ∧ "ci cd pipelines" ∈ variants "CI/CD Pipelines" ∧
    "cicd pipelines" ∈ variants "CI/CD Pipelines" ∧
    Respells ["ci", "cd", "pipelines"] ["cicd", "pipelines"] ∧
    ∃ p : Profile, Tier.ofSkill (.ofProfile p) "CI/CD Pipelines" = .listed ∧
      ∃ t ∈ p.skills, Respells ["ci", "cd", "pipelines"] (tokens (normalize t)) := by
  have hn : normalize "CI/CD Pipelines" = "ci cd pipelines" := by decide +kernel
  have hne : normalize "CI/CD Pipelines" ≠ "" := by decide +kernel
  have ht : tokens (normalize "CI/CD Pipelines") = ["ci", "cd", "pipelines"] := by decide +kernel
  have hv : tokens "cicd pipelines" = ["cicd", "pipelines"] := by decide +kernel
  have hm : "cicd pipelines" ∈ variants "CI/CD Pipelines" :=
    mem_variants.mpr ⟨hne, Or.inr (Or.inr (by decide +kernel))⟩
  have hl : Tier.ofSkill (.ofProfile ⟨"", ["cicd pipelines"], [], []⟩) "CI/CD Pipelines" =
      .listed := by
    refine Tier.ofSkill_eq_listed (List.mem_singleton_self _) ⟨_, hm, ?_⟩
    exact mem_variants.mpr ⟨by decide +kernel, Or.inl (by decide +kernel)⟩
  obtain ⟨_, hbase, hall, hlisted⟩ := variants_are_respellings "CI/CD Pipelines"
  rw [ht] at hall hlisted
  exact ⟨hne, hn ▸ hbase hne, hm, hv ▸ (hall _ hm).2.2, _, hl, hlisted _ hl⟩

end Respells

end Shortlist.Skill
