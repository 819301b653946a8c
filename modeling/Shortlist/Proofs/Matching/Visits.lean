import Shortlist.Proofs.Matching.Coverage
import Shortlist.Proofs.Skill.Respelling
import Shortlist.Proofs.Skill.Visits

/-! # Matching in any order

A match goes through sets as well: the accepted spellings of the candidate's skills, those of a
requirement, and the rejoined phrases among which the best is sought. None of these orders shows in
the result. A search for any phrase that fits finds one in every order, a union has the same members
in every order, and the best share is a least upper bound.
-/

namespace Shortlist

open Text

/-! ## The best share -/

namespace Overlap

variable {a b z : Overlap} {known phrases visited : PhraseSet}

/-- Among shares of one size the order of comparison makes no difference. -/
theorem best_right_comm (h : a.size = b.size) (hs : 0 < b.size) :
    (z.best a).best b = (z.best b).best a := by
  have hsize (x y : Nat) : x * b.size < y * b.size ↔ x < y := Nat.mul_lt_mul_right hs
  have hab : a.hits = b.hits → a = b := by
    cases a; cases b; simp_all
  have hlt {x y : Nat} (hx : ¬ z.hits * b.size < x * z.size) (hy : z.hits * b.size < y * z.size) :
      x < y := Nat.lt_of_mul_lt_mul_right ((not_lt.mp hx).trans_lt hy)
  by_cases ha : z.hits * b.size < a.hits * z.size <;>
    by_cases hb : z.hits * b.size < b.hits * z.size <;>
    simp only [best, h, ha, hb, hsize, if_true, if_false]
  · rcases lt_trichotomy a.hits b.hits with hl | he | hg
    · simp [hl, hl.not_gt]
    · simp [hab he]
    · simp [hg, hg.not_gt]
  · exact if_neg (hlt hb ha).not_gt
  · exact (if_neg (hlt ha hb).not_gt).symm

theorem ofPhrases_perm {n : Nat} (h : visited.Perm phrases)
    (hn : ∀ phrase ∈ phrases, (tokens phrase).length = n) :
    ofPhrases known visited = ofPhrases known phrases := by
  refine h.foldl_eq' (fun x hx y hy z => ?_) nothing
  have hxy : (tokens x).length = (tokens y).length :=
    (hn x (h.mem_iff.mp hx)).trans (hn y (h.mem_iff.mp hy)).symm
  refine (best_right_comm ?_ size_ofPhrase).symm
  simp only [ofPhrase, hxy]
  split <;> rfl

/-- Phrases of any lengths have one best share, in whatever terms it is given. -/
theorem share_ofPhrases_perm (h : visited.Perm phrases) :
    (ofPhrases known visited).share = (ofPhrases known phrases).share := by
  refine eq_of_forall_ge_iff fun q => ?_
  simp only [share_ofPhrases_le_iff, h.mem_iff]

end Overlap

/-! ## A match with its visits left open -/

namespace AnyOrder

def gather {α : Type} (found : α → SetM PhraseSet) (out : PhraseSet) (x : α) : SetM PhraseSet := do
  return .ofList (out ++ (← found x))

def union {α : Type} (found : α → SetM PhraseSet) (xs : List α) : SetM PhraseSet :=
  xs.foldlM (gather found) []

def profileVariants (p : Profile) : SetM PhraseSet := union variants p.skills

def tokensOf (phrases : PhraseSet) : SetM PhraseSet := do
  union tokenVariants ((← visits phrases).flatMap tokens)

def evidence (p : Profile) : SetM Evidence := do
  let accepted ← profileVariants p
  return ⟨accepted, ← tokensOf accepted, p.corpus⟩

def overlap (known phrases : PhraseSet) : SetM Overlap :=
  return .ofPhrases known (← visits phrases)

def tier (e : Evidence) (skill : String) : SetM Tier := do
  let spellings ← variants skill
  if spellings.meets e.variants then return .listed
  else if (← visits spellings).any (containsPhrase e.corpus) then return .mentioned
  else if 1 < (tokens (normalize skill)).length then
    let found ← overlap e.tokens (← rejoins skill)
    return if found.isSufficient then .overlapping else .absent
  else return .absent

section Fit

variable {ω : Type} [OfScientific ω] [Add ω] [Mul ω] [Div ω] [LT ω] [DecidableLT ω]

def fit (p : Profile) (requirements : List (Weighted ω)) : SetM (Fit ω) := do
  let e ← evidence p
  let graded ← (Weighted.collapse requirements).mapM fun r => do return (r, ← tier e r.skill)
  let skills (keep : Tier → Bool) := (graded.filter fun g => keep g.2).map fun g => g.1.skill
  return ⟨skills Tier.isMatch, skills fun t => !t.isMatch, score graded⟩

end Fit

/-! ## One outcome -/

section Union

variable {α : Type} {found : α → SetM PhraseSet} {f : α → PhraseSet}

theorem gather_eq (h : ∀ x, found x = pure (f x)) (out : List String) (x : α) :
    gather found (.ofList out) x = pure (.ofList (out ++ f x)) := by
  rw [gather, h, pure_bind, PhraseSet.ofList_append]

theorem union_eq (h : ∀ x, found x = pure (f x)) (xs : List α) :
    union found xs = pure (.ofList (xs.flatMap f)) := by
  have hall := foldlM_add (gather_eq h) xs []
  rwa [PhraseSet.ofList_nil] at hall

end Union

section Evidence

variable (p : Profile) (e : Evidence) (known phrases : PhraseSet) (skill : String)

theorem profileVariants_eq : profileVariants p = pure p.variants := union_eq variants_eq p.skills

theorem tokensOf_eq : tokensOf phrases = pure (Evidence.tokensOf phrases) := by
  refine visits_bind fun visited hv => ?_
  rw [union_eq tokenVariants_eq]
  refine congrArg pure (PhraseSet.ofList_congr fun x => ?_)
  exact ((hv.flatMap_right tokens).flatMap_right Skill.tokenVariants).mem_iff

theorem evidence_eq : evidence p = pure (.ofProfile p) := by
  rw [evidence, profileVariants_eq, pure_bind, tokensOf_eq, pure_bind]
  rfl

theorem share_overlap :
    Overlap.share <$> overlap known phrases = pure (Overlap.ofPhrases known phrases).share := by
  rw [overlap, map_bind]
  refine visits_bind fun visited hv => ?_
  rw [map_pure, Overlap.share_ofPhrases_perm hv]

/-- Rejoined phrases have as many tokens as the skill, so that not only the share is the same. -/
theorem rejoins_bind_overlap :
    rejoins skill >>= overlap known = pure (.ofPhrases known (Skill.rejoins skill)) := by
  have hn : ∀ phrase ∈ Skill.rejoins skill,
      (tokens phrase).length = (tokens (normalize skill)).length := fun phrase hp =>
    (Skill.rewords_of_mem_rejoinsWithin (Skill.rejoins_eq skill ▸ hp)).length_eq.symm
  rw [rejoins_eq, pure_bind]
  exact visits_bind fun _ hv => congrArg pure (Overlap.ofPhrases_perm hv hn)

theorem tier_eq : tier e skill = pure (.ofSkill e skill) := by
  rw [tier, variants_eq, pure_bind]
  simp only [Tier.ofSkill]
  split
  · rfl
  · refine visits_bind fun visited hv => ?_
    rw [hv.any_eq]
    split
    · rfl
    · by_cases hlen : 1 < (tokens (normalize skill)).length
      · rw [if_pos hlen, ← bind_assoc, rejoins_bind_overlap, pure_bind]
        simp [hlen]
      · simp [hlen]

end Evidence

section Fit

variable {ω : Type} [OfScientific ω] [Add ω] [Mul ω] [Div ω] [LT ω] [DecidableLT ω]

theorem fit_eq (p : Profile) (rs : List (Weighted ω)) : fit p rs = pure (p.fit rs) := by
  have hgrade : (Weighted.collapse rs).mapM
      (fun r => do return (r, ← tier (.ofProfile p) r.skill)) =
        (pure (grade (.ofProfile p) rs) : SetM (List (Graded ω))) :=
    mapM_eq_pure fun r _ => by rw [tier_eq, pure_bind]
  rw [fit, evidence_eq, pure_bind, hgrade, pure_bind]
  rfl

/-- In whatever orders the sets are visited, the phrases that a skill expands to are the same, and
so are the best share, the tier of a requirement and the fit of a profile. -/
theorem one_outcome :
    (∀ skill, (rejoins skill).run = {Skill.rejoins skill}) ∧
    (∀ skill, (variants skill).run = {Skill.variants skill}) ∧
    (∀ known skill, (rejoins skill >>= overlap known).run =
      {Overlap.ofPhrases known (Skill.rejoins skill)}) ∧
    (∀ known phrases, (Overlap.share <$> overlap known phrases).run =
      {(Overlap.ofPhrases known phrases).share}) ∧
    (∀ e skill, (tier e skill).run = {Tier.ofSkill e skill}) ∧
    ∀ (p : Profile) (rs : List (Weighted ω)), (fit p rs).run = {p.fit rs} :=
  ⟨rejoins_eq, variants_eq, rejoins_bind_overlap, share_overlap, tier_eq, fit_eq⟩

end Fit

end AnyOrder

end Shortlist
