import Shortlist.Proofs.Matching.Rejoining
import Shortlist.Proofs.Skill.Reduction

/-! # Variants in both directions

That one skill is a variant of another does not mean that the other is a variant of the first. A
phrase that is an alias as a whole is not taken apart, and each group is swapped once and in its
turn. Where aliases are not in each other's way the variants are symmetric all the same, and they
are all that swapping aliases can reach.
-/

namespace Shortlist.Skill

open Text

variable {a b s t u : String} {ts us choice : List String} {lists : List (List String)}
  {cap : Nat}

/-! ## Rejoined phrases -/

theorem tokenVariants_eq (ht : IsToken t) (h : u ∈ tokenVariants t) :
    tokenVariants u = tokenVariants t := by
  have hset : ∀ {v}, IsToken v → tokenVariants v =
      .ofList (v :: (aliasesOf v).filter isSingleToken) := by
    intro v hv
    have hne : v.isEmpty = false := by simpa using hv.ne_nil
    rw [tokenVariants, hv.normalize_eq, hne]
    rfl
  rw [hset ht, hset (isToken_of_mem_tokenVariants ht h)]
  apply PhraseSet.ofList_congr
  intro v
  have hv := mem_tokenVariants_congr (v := v) ht h
  rwa [hset ht, hset (isToken_of_mem_tokenVariants ht h), PhraseSet.mem_ofList,
    PhraseSet.mem_ofList] at hv

/-- Skills that are written in one-token aliases of each other have the same rejoined phrases, also
where not all of them are kept. -/
theorem Rewords.rejoins_eq (h : Rewords (tokens (normalize a)) (tokens (normalize b))) :
    rejoins a = rejoins b := by
  have hmap : ∀ {ts us : List String}, Rewords ts us → (∀ t ∈ ts, IsToken t) →
      ts.map tokenVariants = us.map tokenVariants := by
    intro ts us h
    induction h with
    | nil => exact fun _ => rfl
    | cons htu _ ih =>
      intro ht
      obtain ⟨ht, hts⟩ := List.forall_mem_cons.mp ht
      rw [List.map_cons, List.map_cons, ih hts, tokenVariants_eq ht htu]
  have hlists := hmap h fun _ => isToken_of_mem_tokens_normalize
  have hempty : (tokens (normalize a)).isEmpty = (tokens (normalize b)).isEmpty := by
    rw [Bool.eq_iff_iff, List.isEmpty_iff_length_eq_zero, List.isEmpty_iff_length_eq_zero,
      h.length_eq]
  simp only [rejoins, hlists, hempty]

theorem length_firstChoices_le (cap : Nat) (lists : List (List String)) :
    (firstChoices cap lists).length ≤ (lists.map List.length).prod := by
  induction lists with
  | nil => rfl
  | cons l lists ih =>
    rw [firstChoices, List.length_take, List.map_cons, List.prod_cons]
    refine (Nat.min_le_right _ _).trans ?_
    simpa using Nat.mul_le_mul_left l.length ih

theorem mem_firstChoices (h : List.Forall₂ (fun l u => u ∈ l) lists choice)
    (hcap : (lists.map List.length).prod ≤ cap) : choice ∈ firstChoices cap lists := by
  induction h with
  | nil => exact List.mem_singleton_self _
  | @cons l u lists choice hu h ih =>
    rw [List.map_cons, List.prod_cons] at hcap
    have hpos : 0 < l.length := List.length_pos_of_mem hu
    have hrest := ih ((Nat.le_mul_of_pos_left _ hpos).trans hcap)
    have hlength : (l.flatMap fun option =>
        (firstChoices cap lists).map (option :: ·)).length ≤ cap := by
      have hle := Nat.mul_le_mul_left l.length (length_firstChoices_le cap lists)
      simpa using hle.trans hcap
    rw [firstChoices, List.take_of_length_le hlength]
    exact List.mem_flatMap.mpr ⟨u, hu, List.mem_map_of_mem hrest⟩

theorem normalize_mem_rejoins (hs : normalize s ≠ "")
    (hfew : (((tokens (normalize s)).map tokenVariants).map List.length).prod ≤ maxRejoins) :
    normalize s ∈ rejoins s := by
  have hne : (tokens (normalize s)).isEmpty = false := by simpa using tokens_normalize_ne_nil hs
  simp only [rejoins, hne, Bool.false_eq_true, if_false]
  rw [PhraseSet.mem_ofList, ← join_tokens (normalize s), join_tokens]
  refine List.mem_map.mpr ⟨tokens (normalize s), mem_firstChoices ?_ hfew, join_tokens _⟩
  rw [List.forall₂_map_left_iff, List.forall₂_same]
  exact fun t ht => mem_tokenVariants_self (isToken_of_mem_tokens_normalize ht)

/-! ## Symmetry -/

/-- The members in a skill stand apart: a clear outline gives them their places. -/
def StandsApart (s : String) : Prop :=
  ∃ (o : Outline) (c : List String → String),
    o.Clear ∧ o.Admits c ∧ tokens (normalize s) = o.row c

/-- Two skills whose aliases are not in each other's way: swaps do not lead from one to the other at
all, they are aliases as a whole, or token by token where no bound leaves them out, they differ at
the places of one outline only, or the members in each of them stand apart. -/
inductive Comparable (a b : String) : Prop
  | unrelated (h : ¬ Respells (tokens (normalize a)) (tokens (normalize b)))
  | whole (h : normalize b ∈ aliasesOf (normalize a))
  | tokenwise (h : Rewords (tokens (normalize a)) (tokens (normalize b)))
      (ha : normalize a ∈ rejoins a) (hb : normalize b ∈ rejoins b)
  | outline (o : Outline) (c d : List String → String) (h : o.Apart) (hc : o.Admits c)
      (hd : o.Admits d) (ha : tokens (normalize a) = o.row c) (hb : tokens (normalize b) = o.row d)
  | apart (ha : StandsApart a) (hb : StandsApart b)

theorem mem_aliasesOf_symm (h : t ∈ aliasesOf s) : s ∈ aliasesOf t := by
  obtain ⟨g, hg, hs, ht⟩ := exists_group_of_mem_aliasesOf h
  rwa [aliasesOf_eq g hg t ht]

theorem mem_variants_of_mem_aliasesOf (ha : normalize a ≠ "")
    (h : normalize b ∈ aliasesOf (normalize a)) : normalize b ∈ variants a :=
  mem_variants.mpr ⟨ha, Or.inr (Or.inl h)⟩

theorem Rewords.mem_variants (h : Rewords (tokens (normalize a)) (tokens (normalize b)))
    (ha : normalize a ≠ "") (hb : normalize b ∈ rejoins b) : normalize b ∈ variants a := by
  by_cases hlong : 1 < (tokens (normalize a)).length
  · rw [← h.rejoins_eq] at hb
    exact Skill.mem_variants.mpr ⟨ha, Or.inr (Or.inr ⟨hlong, Or.inl hb⟩)⟩
  · -- The only token is the skill.
    have hone : (tokens (normalize a)).length = 1 := by
      have hpos := List.length_pos_of_ne_nil (tokens_normalize_ne_nil ha)
      omega
    obtain ⟨t, ht⟩ := List.length_eq_one_iff.mp hone
    obtain ⟨u, hu⟩ := List.length_eq_one_iff.mp (h.length_eq ▸ hone)
    have htoken : IsToken t := isToken_of_mem_tokens_normalize (ht ▸ List.mem_singleton_self t)
    have hutoken : IsToken u := isToken_of_mem_tokens_normalize (hu ▸ List.mem_singleton_self u)
    have hat : normalize a = t := by
      rw [← join_tokens (normalize a), ht, ← htoken.tokens_eq, join_tokens]
    have hbu : normalize b = u := by
      rw [← join_tokens (normalize b), hu, ← hutoken.tokens_eq, join_tokens]
    rw [ht, hu] at h
    have hvariant : u ∈ tokenVariants t := (List.forall₂_cons.mp h).1
    rw [Skill.mem_variants, hat, hbu]
    rcases (mem_tokenVariants htoken).mp hvariant with rfl | ⟨halias, -⟩
    · exact ⟨hat ▸ ha, Or.inl rfl⟩
    · exact ⟨hat ▸ ha, Or.inr (Or.inl halias)⟩

theorem Rewords.symm (h : Rewords ts us) (ht : ∀ t ∈ ts, IsToken t) : Rewords us ts := by
  induction h with
  | nil => exact .nil
  | cons htu _ ih =>
    obtain ⟨ht, hts⟩ := List.forall_mem_cons.mp ht
    exact .cons ((mem_tokenVariants_congr ht htu).mpr (mem_tokenVariants_self ht)) (ih hts)

theorem Outline.Apart.mem_variants {o : Outline} {c d : List String → String} (h : o.Apart)
    (hc : o.Admits c) (hd : o.Admits d) (hne : normalize a ≠ "")
    (ha : tokens (normalize a) = o.row c) (hb : tokens (normalize b) = o.row d) :
    normalize b ∈ variants a := by
  have hphrase : normalize a = o.phrase c := by
    rw [Outline.phrase, ← ha, join_tokens]
  have hphrase' : normalize b = o.phrase d := by
    rw [Outline.phrase, ← hb, join_tokens]
  have hn : o ≠ [] := by
    rintro rfl
    exact tokens_normalize_ne_nil hne ha
  exact hphrase' ▸ h.phrase_mem_variants hc hd hn hphrase

theorem StandsApart.mem_variants (ha : StandsApart a) (hb : StandsApart b) (hne : normalize a ≠ "")
    (hr : Respells (tokens (normalize a)) (tokens (normalize b))) : normalize b ∈ variants a := by
  obtain ⟨o, c, ho, hc, hrow⟩ := ha
  obtain ⟨o', d, ho', hd, hrow'⟩ := hb
  obtain rfl := ho.eq_of_respells ho' hc hd (hrow' ▸ hrow ▸ hr)
  exact ho.toApart.mem_variants hc hd hne hrow hrow'

/-- Comparable skills are variants of each other, or none is of the other; they are exactly if swaps
of aliases lead from one to the other. -/
theorem variants_symmetric (a b : String) (ha : normalize a ≠ "") (hb : normalize b ≠ "")
    (h : Comparable a b) :
    (normalize b ∈ variants a ↔ normalize a ∈ variants b) ∧
    (normalize b ∈ variants a ↔ Respells (tokens (normalize a)) (tokens (normalize b))) := by
  have htoken : ∀ t ∈ tokens (normalize a), IsToken t := fun _ => isToken_of_mem_tokens_normalize
  have hboth : Respells (tokens (normalize a)) (tokens (normalize b)) →
      normalize b ∈ variants a ∧ normalize a ∈ variants b := by
    intro hr
    cases h with
    | unrelated h => exact (h hr).elim
    | whole h =>
      exact ⟨mem_variants_of_mem_aliasesOf ha h,
        mem_variants_of_mem_aliasesOf hb (mem_aliasesOf_symm h)⟩
    | tokenwise h hka hkb => exact ⟨h.mem_variants ha hkb, (h.symm htoken).mem_variants hb hka⟩
    | outline o c d h hc hd hra hrb =>
      exact ⟨h.mem_variants hc hd ha hra hrb, h.mem_variants hd hc hb hrb hra⟩
    | apart hsa hsb => exact ⟨hsa.mem_variants hsb ha hr, hsb.mem_variants hsa hb hr.symm⟩
  have hab : normalize b ∈ variants a ↔
      Respells (tokens (normalize a)) (tokens (normalize b)) :=
    ⟨respells_of_mem_variants, fun hr => (hboth hr).1⟩
  refine ⟨hab.trans ⟨fun hr => (hboth hr).2, fun hv => ?_⟩, hab⟩
  exact (respells_of_mem_variants hv).symm

def backend : Outline :=
  [.place ["rest", "rest api"], .word "in", .place ["node js", "nodejs"]]

theorem place_backend {g : List String} (hg : .place g ∈ backend) :
    g = ["rest", "rest api"] ∨ g = ["node js", "nodejs"] := by
  simpa [backend] using hg

def inFull (g : List String) : String := if g = ["rest", "rest api"] then "rest api" else "node js"

theorem backend_clear : backend.Clear := by
  refine .of_foreign ?_ ?_ ?_ ?_
  · intro t ht
    obtain rfl : t = "in" := by simpa [backend] using ht
    decide
  · intro g hg
    rcases place_backend hg with rfl | rfl <;> decide
  · intro g h hg hh hne
    rcases place_backend hg with rfl | rfl <;> rcases place_backend hh with rfl | rfl
    · exact (hne rfl).elim
    · decide
    · decide
    · exact (hne rfl).elim
  · intro g h hi
    simp [backend, List.infix_cons_iff, List.cons_prefix_cons] at hi

theorem variants_symmetric_backend :
    normalize "rest api in node.js" ≠ "" ∧ normalize "rest in nodejs" ≠ "" ∧
    Comparable "rest api in node.js" "rest in nodejs" ∧
    normalize "rest in nodejs" ∈ variants "rest api in node.js" ∧
    normalize "rest api in node.js" ∈ variants "rest in nodejs" := by
  have ha : normalize "rest api in node.js" ≠ "" := by decide
  have hb : normalize "rest in nodejs" ≠ "" := by decide
  have hadmits : backend.Admits inFull := by
    intro g hg
    rcases place_backend hg with rfl | rfl <;> decide
  have hrow : tokens (normalize "rest api in node.js") = backend.row inFull := by decide
  have hrow' : tokens (normalize "rest in nodejs") = backend.row shortest := by decide
  have hc : Comparable "rest api in node.js" "rest in nodejs" :=
    .apart ⟨backend, inFull, backend_clear, hadmits, hrow⟩
      ⟨backend, shortest, backend_clear, backend_clear.admits_shortest, hrow'⟩
  obtain ⟨hiff, hrespells⟩ := variants_symmetric _ _ ha hb hc
  have hvariant : normalize "rest in nodejs" ∈ variants "rest api in node.js" := by
    rw [hrespells, hrow, hrow']
    exact backend_clear.respells_shortest hadmits
  exact ⟨ha, hb, hc, hvariant, hiff.mp hvariant⟩

/-- The alias that one phrase begins with makes the other whole, which is then left alone. -/
theorem variants_not_symmetric :
    normalize "gcp platform" ≠ "" ∧ normalize "google cloud platform" ≠ "" ∧
    normalize "google cloud platform" ∈ variants "gcp platform" ∧
    normalize "gcp platform" ∉ variants "google cloud platform" := by
  have ha : normalize "gcp platform" ≠ "" := by decide
  have hb : normalize "google cloud platform" ≠ "" := by decide
  refine ⟨ha, hb, ?_, ?_⟩
  · exact mem_variants.mpr ⟨ha, Or.inr (Or.inr ⟨by decide, Or.inr (by decide +kernel)⟩)⟩
  · have hlength : (tokens (normalize "gcp platform")).length ≠
        (tokens (normalize "google cloud platform")).length := by decide
    intro h
    rcases mem_variants.mp h with ⟨-, he | halias | ⟨-, hr | hexpansion⟩⟩
    · exact hlength (he ▸ rfl)
    · have hnone : normalize "gcp platform" ∉ aliasesOf (normalize "google cloud platform") := by
        decide
      exact hnone halias
    · exact hlength (rewords_of_mem_rejoinsWithin (rejoins_eq _ ▸ hr)).length_eq.symm
    · have hnone : normalize "gcp platform" ∉ expansions (normalize "google cloud platform") := by
        decide
      exact hnone hexpansion

end Shortlist.Skill
