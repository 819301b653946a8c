import Shortlist.Proofs.Skill.PhraseSet
import Shortlist.Proofs.Text.Tokens
import Shortlist.Skill.Variants

/-! # Membership in the variants of a skill

The variants of a skill depend on its normal form only.
-/

namespace Shortlist.Skill

open Text

variable {s t u x : String}

theorem mem_tokenVariants (ht : IsToken t) :
    u ∈ tokenVariants t ↔ u = t ∨ u ∈ aliasesOf t ∧ isSingleToken u = true := by
  have hne : t.isEmpty = false := by simpa using ht.ne_nil
  rw [tokenVariants, ht.normalize_eq, hne]
  simp

@[simp] theorem variants_normalize (s : String) : variants (normalize s) = variants s := by
  simp [variants]

@[simp] theorem rejoins_normalize (s : String) : rejoins (normalize s) = rejoins s := by
  simp [rejoins]

theorem variants_congr (h : normalize s = normalize t) : variants s = variants t := by
  rw [← variants_normalize s, h, variants_normalize]

theorem mem_variants : x ∈ variants s ↔ normalize s ≠ "" ∧
    (x = normalize s ∨ x ∈ aliasesOf (normalize s) ∨
      1 < (tokens (normalize s)).length ∧ (x ∈ rejoins s ∨ x ∈ expansions (normalize s))) := by
  simp only [variants]
  split
  · next h => simp_all
  · next h =>
    have hs : normalize s ≠ "" := by simpa using h
    rw [PhraseSet.mem_ofList, and_iff_right hs, List.cons_append, List.mem_cons, List.mem_append]
    split
    · next hl => simp [hl]
    · next hl => simp [hl]

theorem normalize_mem_variants (h : normalize s ≠ "") : normalize s ∈ variants s :=
  mem_variants.mpr ⟨h, Or.inl rfl⟩

end Shortlist.Skill
