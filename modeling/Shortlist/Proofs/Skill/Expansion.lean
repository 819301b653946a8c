import Mathlib.Data.List.Infix
import Shortlist.Proofs.Skill.Variants
import Shortlist.Proofs.Text.Phrase

/-! # Swapping aliases

What one alias group does to a phrase. The longest member that stands in the phrase is swapped for
the others; that a member of one group can stand inside a member of another is seen from the table:
such a member is the shortest of its own group.
-/

namespace Shortlist.Skill

open Text

section Longest

variable {l : List String} {m n : String}

theorem exists_longest (hn : l ≠ []) :
    ∃ k ∈ l, longest? l = some k ∧ ∀ n ∈ l, n.length ≤ k.length := by
  induction l with
  | nil => exact (hn rfl).elim
  | cons m l ih =>
    by_cases hl : l = []
    · subst hl
      exact ⟨m, by simp, rfl, by simp⟩
    · obtain ⟨k, hk, he, hmax⟩ := ih hl
      simp only [longest?, he]
      split
      · next hlt =>
        refine ⟨k, List.mem_cons_of_mem _ hk, rfl, List.forall_mem_cons.mpr ⟨hlt.le, hmax⟩⟩
      · next hge =>
        refine ⟨m, List.mem_cons_self, rfl, List.forall_mem_cons.mpr ⟨le_rfl, fun n hn => ?_⟩⟩
        exact (hmax n hn).trans (not_lt.mp hge)

theorem longest?_eq_some (hm : m ∈ l) (h : ∀ n ∈ l, n ≠ m → n.length < m.length) :
    longest? l = some m := by
  obtain ⟨k, hk, he, hmax⟩ := exists_longest (List.ne_nil_of_mem hm)
  by_cases hkm : k = m
  · rw [he, hkm]
  · exact absurd (hmax m hm) (not_le.mpr (h k hk hkm))

end Longest

/-! ## The table of groups -/

/-- The last of the shortest of some phrases. -/
def shortest : List String → String
  | [] => ""
  | [m] => m
  | m :: rest => if m.length < (shortest rest).length then m else shortest rest

section Table

variable {g h : List String} {m n t : String}

theorem shortest_mem : ∀ g ∈ aliasGroups, shortest g ∈ g := by decide

theorem length_shortest_lt : ∀ g ∈ aliasGroups, ∀ m ∈ g,
    m ≠ shortest g → (shortest g).length < m.length := by decide

theorem aliasesOf_eq : ∀ g ∈ aliasGroups, ∀ m ∈ g, aliasesOf m = g := by decide

theorem tokens_member : ∀ g ∈ aliasGroups, ∀ m ∈ g,
    tokens m ≠ [] ∧ ∀ t ∈ tokens m, tokens (normalize t) = [t] := by decide

theorem length_lt_of_isInfix : ∀ g ∈ aliasGroups, ∀ m ∈ g, ∀ n ∈ g,
    tokens m <:+: tokens n → m ≠ n → m.length < n.length := by decide

/-- Only the shortest member of a group stands inside members of other groups. -/
theorem eq_shortest_of_isInfix : ∀ g ∈ aliasGroups, ∀ h ∈ aliasGroups, g ≠ h →
    ∀ m ∈ g, ∀ n ∈ h, tokens m <:+: tokens n → m = shortest g := by decide

theorem isToken_of_mem_member (hg : g ∈ aliasGroups) (hm : m ∈ g) (ht : t ∈ tokens m) :
    IsToken t :=
  isToken_iff.mpr ((tokens_member g hg m hm).2 t ht)

end Table

/-! ## Swaps -/

section Swaps

variable {groups : List (List String)} {phrases group : List String} {phrase old new : String}

theorem mem_addSwaps_of_mem (h : phrase ∈ phrases) : phrase ∈ addSwaps phrases group :=
  List.mem_append_left _ h

theorem substitutePhrase_mem_addSwaps (h : phrase ∈ phrases)
    (hl : longest? (group.filter (containsPhrase phrase)) = some old) (ho : old ≠ phrase)
    (hn : new ∈ group) (hne : new ≠ old) :
    substitutePhrase phrase old new ∈ addSwaps phrases group := by
  refine List.mem_append_right _ (List.mem_flatMap.mpr ⟨phrase, h, ?_⟩)
  simp only [swaps, hl, if_neg ho]
  exact List.mem_map_of_mem (List.mem_filter.mpr ⟨hn, by simpa using hne⟩)

end Swaps

end Shortlist.Skill
