import Mathlib.Data.List.Dedup
import Mathlib.Data.List.Lex
import Shortlist.Proofs.Skill.Expansion

/-! # The listed groups

The table of alias groups is what the list of spellings comes to: every group is the set of the
normal forms of one that is listed, a phrase is looked up where it is listed, and the groups are
sorted by their members.
-/

namespace Shortlist.Skill

open Text

variable {g listed : List String} {phrase : String}

theorem pairwise_member : ∀ g ∈ aliasGroups, g.Pairwise (· < ·) := by decide

theorem pairwise_aliasGroups : aliasGroups.Pairwise (· < ·) := by decide +kernel

theorem mem_membersOf : phrase ∈ membersOf listed ↔
    ∃ spelling ∈ listed, normalize spelling = phrase ∧ phrase ≠ "" := by
  simp only [membersOf, PhraseSet.mem_ofList, List.mem_filter, List.mem_map, Bool.not_eq_true',
    String.isEmpty_eq_false_iff]
  grind

/-- A group is listed in spellings of its members, at least one for each. -/
def Spelled (listed g : List String) : Prop :=
  (∀ spelling ∈ listed, normalize spelling ∈ g) ∧
    ∀ m ∈ g, m ≠ "" ∧ ∃ spelling ∈ listed, normalize spelling = m

instance : Decidable (Spelled listed g) :=
  inferInstanceAs (Decidable (_ ∧ _))

theorem Spelled.membersOf_eq (h : Spelled listed g) (hg : g ∈ aliasGroups) :
    membersOf listed = g := by
  apply (PhraseSet.pairwise_ofList _).eq_of_mem_iff (pairwise_member g hg)
  intro m
  refine mem_membersOf.trans ⟨?_, fun hm => ?_⟩
  · rintro ⟨spelling, hspelling, rfl, -⟩
    exact h.1 spelling hspelling
  · obtain ⟨hne, spelling, hspelling, he⟩ := h.2 m hm
    exact ⟨spelling, hspelling, he, hne⟩

theorem mem_aliasGroups_iff : g ∈ aliasGroups ↔ g ∈ listedGroups.map membersOf := by
  have hgroup : ∀ g ∈ aliasGroups, ∃ listed ∈ listedGroups, Spelled listed g := by decide
  have hlisted : ∀ listed ∈ listedGroups, ∃ g ∈ aliasGroups, Spelled listed g := by decide
  rw [List.mem_map]
  constructor
  · intro hg
    obtain ⟨listed, hl, hspelled⟩ := hgroup g hg
    exact ⟨listed, hl, hspelled.membersOf_eq hg⟩
  · rintro ⟨listed, hl, rfl⟩
    obtain ⟨g, hg, hspelled⟩ := hlisted listed hl
    rwa [hspelled.membersOf_eq hg]

/-- A phrase has the aliases of the group that it is listed in. -/
theorem aliasesOf_eq_listed (phrase : String) :
    aliasesOf phrase = (listedGroup? phrase).getD [] := by
  cases hl : listedGroup? phrase with
  | some g =>
    have hg : g ∈ aliasGroups :=
      mem_aliasGroups_iff.mpr (List.mem_reverse.mp (List.mem_of_find?_eq_some hl))
    have hphrase : phrase ∈ g := by simpa using List.find?_some hl
    exact aliasesOf_eq g hg phrase hphrase
  | none =>
    have hnone : aliasGroups.find? (·.contains phrase) = none := by
      rw [List.find?_eq_none]
      intro g hg
      refine List.find?_eq_none.mp hl g (List.mem_reverse.mpr ?_)
      exact mem_aliasGroups_iff.mp hg
    rw [aliasesOf, hnone]

/-- The table has the group of every listed phrase once, sorted. -/
theorem aliasGroups_eq_listed :
    aliasGroups = ((listedGroups.flatMap membersOf).filterMap listedGroup?).dedup.mergeSort
      fun a b => decide ¬ b < a := by
  convert (PhraseSet.mergeSort_eq pairwise_aliasGroups ?_).symm
  have hnodup : aliasGroups.Nodup := pairwise_aliasGroups.imp ne_of_lt
  refine (List.perm_ext_iff_of_nodup (List.nodup_dedup _) hnodup).mpr fun g => ?_
  rw [List.mem_dedup, List.mem_filterMap]
  constructor
  · rintro ⟨m, -, hm⟩
    exact mem_aliasGroups_iff.mpr (List.mem_reverse.mp (List.mem_of_find?_eq_some hm))
  · intro hg
    have hm := shortest_mem g hg
    refine ⟨shortest g, ?_, ?_⟩
    · obtain ⟨listed, hl, rfl⟩ := List.mem_map.mp (mem_aliasGroups_iff.mp hg)
      exact List.mem_flatMap.mpr ⟨listed, hl, hm⟩
    · have he := (aliasesOf_eq_listed (shortest g)).symm.trans (aliasesOf_eq g hg _ hm)
      cases hl : listedGroup? (shortest g) with
      | some h => rw [← he, hl, Option.getD_some]
      | none =>
        rw [hl, Option.getD_none] at he
        rw [← he] at hm
        cases hm

end Shortlist.Skill
