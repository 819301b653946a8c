import Shortlist.Proofs.Matching.Score

/-! # More skills

The evidence of a profile depends on its skills only through their normal forms, and grows with
them. Neither a requirement nor the score ever loses by an additional skill.
-/

namespace Shortlist

open Weighted

variable {p q : Profile}

def Profile.normalSkills (p : Profile) : List String :=
  (p.skills.map Text.normalize).filter (!·.isEmpty)

theorem Profile.mem_normalSkills {k : String} :
    k ∈ p.normalSkills ↔ k ≠ "" ∧ ∃ s ∈ p.skills, Text.normalize s = k := by
  simp [normalSkills, and_comm]

theorem Profile.mem_variants {v : String} :
    v ∈ p.variants ↔ ∃ k ∈ p.normalSkills, v ∈ Skill.variants k := by
  rw [variants, PhraseSet.mem_ofList, List.mem_flatMap]
  constructor
  · rintro ⟨s, hs, hv⟩
    have hne : Text.normalize s ≠ "" := (Skill.mem_variants.mp hv).1
    refine ⟨Text.normalize s, mem_normalSkills.mpr ⟨hne, s, hs, rfl⟩, ?_⟩
    rwa [Skill.variants_normalize]
  · rintro ⟨k, hk, hv⟩
    obtain ⟨_, s, hs, rfl⟩ := mem_normalSkills.mp hk
    rw [Skill.variants_normalize] at hv
    exact ⟨s, hs, hv⟩

theorem Evidence.mem_tokensOf {phrases : PhraseSet} {t : String} : t ∈ tokensOf phrases ↔
    ∃ v ∈ phrases, ∃ u ∈ Text.tokens v, t ∈ Skill.tokenVariants u := by
  simp only [tokensOf, PhraseSet.mem_ofList, List.mem_flatMap]
  constructor
  · rintro ⟨u, ⟨v, hv, hu⟩, ht⟩
    exact ⟨v, hv, u, hu, ht⟩
  · rintro ⟨v, hv, u, hu, ht⟩
    exact ⟨u, ⟨v, hv, hu⟩, ht⟩

theorem Evidence.tokensOf_mono {xs ys : PhraseSet} (h : xs ⊆ ys) : tokensOf xs ⊆ tokensOf ys := by
  intro t ht
  obtain ⟨v, hv, hu⟩ := mem_tokensOf.mp ht
  exact mem_tokensOf.mpr ⟨v, h hv, hu⟩

/-- Two profiles with the same texts, of which the second lists every skill of the first. -/
structure Profile.Gains (p q : Profile) : Prop where
  summary : p.summary = q.summary
  experience : p.experience = q.experience
  education : p.education = q.education
  normalSkills : p.normalSkills ⊆ q.normalSkills

namespace Profile

theorem Gains.extends (h : p.Gains q) : (Evidence.ofProfile p).Extends (.ofProfile q) := by
  have hv : p.variants ⊆ q.variants := by
    intro v hv
    obtain ⟨k, hk, hv⟩ := mem_variants.mp hv
    exact mem_variants.mpr ⟨k, h.normalSkills hk, hv⟩
  have hc : (Evidence.ofProfile p).corpus = (Evidence.ofProfile q).corpus := by
    simp only [Evidence.ofProfile, corpus, freeTexts, h.summary, h.experience, h.education]
  exact ⟨hv, Evidence.tokensOf_mono hv, fun v hm => hc ▸ hm⟩

theorem Gains.credit_le (h : p.Gains q) (s : String) :
    ((Tier.ofSkill (.ofProfile p) s).credit : ℚ) ≤ (Tier.ofSkill (.ofProfile q) s).credit :=
  Tier.credit_mono h.extends

theorem Gains.meets (h : p.Gains q) {k : String} (hk : p.meets k = true) : q.meets k = true := by
  rw [Profile.meets, Tier.isMatch_iff] at hk ⊢
  exact hk.trans (h.credit_le k)

theorem Gains.score_le (h : p.Gains q) (rs : List (Weighted ℚ)) :
    (p.fit rs).score ≤ (q.fit rs).score :=
  score_le_score fun r _ _ => h.credit_le r.skill

theorem Gains.ofSkill_eq (h : p.Gains q) (h' : q.Gains p) (s : String) :
    Tier.ofSkill (.ofProfile p) s = Tier.ofSkill (.ofProfile q) s :=
  Tier.credit_injective (le_antisymm (h.credit_le s) (h'.credit_le s))

section Fit

variable {ω : Type} [OfScientific ω] [Add ω] [Mul ω] [Div ω] [LT ω] [DecidableLT ω]
  {rs : List (Weighted ω)}

theorem Gains.matched_subset (h : p.Gains q) : (p.fit rs).matched ⊆ (q.fit rs).matched := by
  rw [matched_eq, matched_eq]
  apply List.map_subset
  intro r hr
  obtain ⟨hr, hm⟩ := List.mem_filter.mp hr
  exact List.mem_filter.mpr ⟨hr, h.meets hm⟩

theorem Gains.fit_eq (h : p.Gains q) (h' : q.Gains p) : p.fit rs = q.fit rs := by
  have hg : grade (.ofProfile p) rs = grade (.ofProfile q) rs :=
    List.map_congr_left fun r _ => by rw [h.ofSkill_eq h']
  rw [fit, fit, hg]

end Fit

/-- A profile that gains skills loses no credit, no matched skill and no score, whatever else is
required. Where it gains only spellings of skills it has, its fit stays the same in all parts and in
any numbers. -/
theorem fit_grows_with_skills (h : p.Gains q) :
    (∀ s, ((Tier.ofSkill (.ofProfile p) s).credit : ℚ) ≤ (Tier.ofSkill (.ofProfile q) s).credit) ∧
    (∀ (ω : Type) [OfScientific ω] [Add ω] [Mul ω] [Div ω] [LT ω] [DecidableLT ω]
      (rs : List (Weighted ω)), (p.fit rs).matched ⊆ (q.fit rs).matched) ∧
    (∀ rs : List (Weighted ℚ), (p.fit rs).score ≤ (q.fit rs).score) ∧
    (q.normalSkills ⊆ p.normalSkills →
      ∀ (ω : Type) [OfScientific ω] [Add ω] [Mul ω] [Div ω] [LT ω] [DecidableLT ω]
        (rs : List (Weighted ω)), p.fit rs = q.fit rs) := by
  refine ⟨h.credit_le, fun ω _ _ _ _ _ _ rs => h.matched_subset, h.score_le, ?_⟩
  intro hsk ω _ _ _ _ _ _ rs
  exact h.fit_eq ⟨h.summary.symm, h.experience.symm, h.education.symm, hsk⟩

theorem gopher_fit_grows :
    gopher.Gains ⟨"", ["Rust", "GO!"], [], []⟩ ∧ (gopher.fit gopherRoles).score ≤
      ((⟨"", ["Rust", "GO!"], [], []⟩ : Profile).fit gopherRoles).score := by
  have h : gopher.Gains ⟨"", ["Rust", "GO!"], [], []⟩ := ⟨rfl, rfl, rfl, by decide +kernel⟩
  exact ⟨h, (fit_grows_with_skills h).2.2.1 gopherRoles⟩

end Profile

end Shortlist
