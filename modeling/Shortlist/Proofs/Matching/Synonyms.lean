import Shortlist.Proofs.Matching.Tier
import Shortlist.Proofs.Skill.Alternation

/-! # Synonyms in full

A listed skill earns full credit for every requirement that shares a variant with it. Phrases that
differ in members of alias groups do share one, in whichever of them stands in the profile.
-/

namespace Shortlist

open Text

namespace Skill.Alternation

/-- Two phrases that differ in the members of distinct alias groups are in normal form and, however
they are spelled, have a variant in common. So each of them is met in full by a profile that lists
the other. -/
theorem alias_phrases_meet {a : Alternation} (h : a.WellFormed) (hn : a.lead ≠ [] ∨ a.slots ≠ []) :
    normalize (a.phrase Slot.left) = a.phrase Slot.left ∧
    normalize (a.phrase Slot.right) = a.phrase Slot.right ∧
    ∀ s t, normalize s = a.phrase Slot.left → normalize t = a.phrase Slot.right →
      (∃ v ∈ variants s, v ∈ variants t) ∧
      ∀ p : Profile,
        (t ∈ p.skills → Tier.ofSkill (.ofProfile p) s = .listed ∧
          ((Tier.ofSkill (.ofProfile p) s).credit : ℚ) = 1) ∧
        (s ∈ p.skills → Tier.ofSkill (.ofProfile p) t = .listed ∧
          ((Tier.ofSkill (.ofProfile p) t).credit : ℚ) = 1) := by
  refine ⟨h.normalize_phrase h.left_mem, h.normalize_phrase h.right_mem, fun s t hs ht => ?_⟩
  have hvs := h.settled_mem_variants hn h.left_mem hs
  have hvt := h.settled_mem_variants hn h.right_mem ht
  refine ⟨⟨a.settled, hvs, hvt⟩, fun p => ⟨fun hp => ?_, fun hp => ?_⟩⟩
  · have hl : Tier.ofSkill (.ofProfile p) s = .listed :=
      Tier.ofSkill_eq_listed hp ⟨a.settled, hvs, hvt⟩
    exact ⟨hl, hl ▸ Tier.credit_listed⟩
  · have hl : Tier.ofSkill (.ofProfile p) t = .listed :=
      Tier.ofSkill_eq_listed hp ⟨a.settled, hvt, hvs⟩
    exact ⟨hl, hl ▸ Tier.credit_listed⟩

/-- Two places with the word "engineer" between them; one of the members holds the other group's. -/
def nodeEngineer : Alternation :=
  ⟨[], [⟨["node js", "nodejs"], "node js", "nodejs", ["engineer"]⟩,
    ⟨["javascript", "js"], "js", "javascript", []⟩]⟩

theorem nodeEngineer_wellFormed : nodeEngineer.WellFormed where
  lead := by decide
  after := by decide
  apart := by decide
  group_mem := by decide
  left_mem := by decide
  right_mem := by decide
  distinct := by decide

theorem alias_phrases_meet_nodeEngineer :
    normalize "Node.js engineer (JS)" = nodeEngineer.phrase Slot.left ∧
    normalize "NodeJS engineer, JavaScript" = nodeEngineer.phrase Slot.right ∧
    ∃ v ∈ variants "Node.js engineer (JS)", v ∈ variants "NodeJS engineer, JavaScript" := by
  have hs : normalize "Node.js engineer (JS)" = nodeEngineer.phrase Slot.left := by decide +kernel
  have ht : normalize "NodeJS engineer, JavaScript" = nodeEngineer.phrase Slot.right := by
    decide +kernel
  have hn : nodeEngineer.lead ≠ [] ∨ nodeEngineer.slots ≠ [] := by decide +kernel
  exact ⟨hs, ht, ((alias_phrases_meet nodeEngineer_wellFormed hn).2.2 _ _ hs ht).1⟩

end Skill.Alternation

end Shortlist
