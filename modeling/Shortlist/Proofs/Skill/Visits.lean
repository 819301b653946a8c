import Mathlib.Data.Set.Functor
import Shortlist.Proofs.Skill.Listing

/-! # Sets visited in any order

A set stands here as a list in ascending order, but whoever goes through a set meets its members in
an order of no account. Below the expansion of a skill leaves every such order open, so that it has
a set of outcomes. There is always just one. What is sorted after a visit has lost its order; the
members of a group differ in length, so the longest of some of them does not depend on which comes
first; and what is swapped for a group is a snapshot, so that the order of the snapshot decides only
when a phrase is added.
-/

namespace Shortlist.AnyOrder

open Text Skill

/-- The orders in which a set may be visited. -/
def visits {α : Type} (s : List α) : SetM (List α) := {l : List α | l.Perm s}

def ascending {α : Type} [LinearOrder α] (l : List α) : List α :=
  l.mergeSort fun a b => decide ¬ b < a

/-- The alias groups, each by its members in ascending order, sorted by that. -/
def groups : SetM (List (List String)) := do
  let found ← visits aliasGroups
  let keys ← found.mapM fun group => return ascending (← visits group)
  return ascending keys

def tokenVariants (token : String) : SetM PhraseSet :=
  let t := normalize token
  if t.isEmpty then pure []
  else return .ofList (t :: (← visits (aliasesOf t)).filter isSingleToken)

/-- The variants of a token in the order in which they are combined. -/
def alternatives (token : String) : SetM (List String) := do
  let found ← tokenVariants token
  return ascending (← visits found)

def rejoins (skill : String) : SetM PhraseSet :=
  let parts := tokens (normalize skill)
  if parts.isEmpty then pure []
  else do
    let options ← parts.mapM alternatives
    return .ofList ((firstChoices maxRejoins options).map (join " "))

/-- Adds the swaps of one group inside one phrase. The group is visited twice, to find the longest
member and to go through the others. -/
def addSwapsInside (group : List String) (expanded : PhraseSet) (phrase : String) :
    SetM PhraseSet := do
  let found ← visits group
  match longest? (found.filter (containsPhrase phrase)) with
  | none => return expanded
  | some old =>
    if old = phrase then return expanded
    else
      let members ← visits group
      return .ofList (expanded ++ (members.filter (· ≠ old)).map (substitutePhrase phrase old))

/-- Goes through the phrases there were before, while the set grows. -/
def addSwaps (expanded : PhraseSet) (group : List String) : SetM PhraseSet := do
  let snapshot ← visits expanded
  snapshot.foldlM (addSwapsInside group) expanded

def expansions (phrase : String) : SetM PhraseSet := do
  (← groups).foldlM addSwaps [phrase]

def variants (skill : String) : SetM PhraseSet :=
  let base := normalize skill
  if base.isEmpty then pure []
  else do
    let members ← visits (aliasesOf base)
    if 1 < (tokens base).length then
      return .ofList (base :: members ++ ((← rejoins base) ++ (← expansions base)))
    else return .ofList (base :: members)

/-! ## Steps with one outcome -/

section Steps

variable {α β : Type}

/-- A visit whose order makes no difference to what follows. -/
theorem visits_bind {s : List α} {f : List α → SetM β} {b : β}
    (h : ∀ l, l.Perm s → f l = pure b) : visits s >>= f = pure b := by
  change (⋃ l ∈ {l : List α | l.Perm s}, SetM.run (f l)) = {b}
  have hrun : ∀ l ∈ {l : List α | l.Perm s}, SetM.run (f l) = {b} := fun l hl => h l hl
  have hs : s ∈ {l : List α | l.Perm s} := List.Perm.refl s
  rw [Set.iUnion₂_congr hrun]
  exact Set.biUnion_const ⟨s, hs⟩ {b}

theorem mapM_eq_pure {f : α → SetM β} {g : α → β} {l : List α} (h : ∀ a ∈ l, f a = pure (g a)) :
    l.mapM f = pure (l.map g) := by
  induction l with
  | nil => simp
  | cons a l ih =>
    obtain ⟨ha, hl⟩ := List.forall_mem_cons.mp h
    rw [List.mapM_cons, ha, pure_bind, ih hl, pure_bind, List.map_cons]

/-- A loop that adds to a set does so in any order of the set and of its steps. -/
theorem foldlM_add {step : PhraseSet → α → SetM PhraseSet} {f : α → List String}
    (h : ∀ xs a, step (.ofList xs) a = pure (.ofList (xs ++ f a))) (l : List α)
    (xs : List String) :
    l.foldlM step (.ofList xs) = pure (.ofList (xs ++ l.flatMap f)) := by
  induction l generalizing xs with
  | nil => simp
  | cons a l ih => rw [List.foldlM_cons, h, pure_bind, ih, List.flatMap_cons, List.append_assoc]

/-- What a visit loses, sorting restores. -/
theorem visits_ascending [LinearOrder α] {s : List α} (hs : s.Pairwise (· < ·)) :
    (do return ascending (← visits s)) = (pure s : SetM (List α)) :=
  visits_bind fun _ hl => congrArg pure (PhraseSet.mergeSort_eq hs hl)

end Steps

/-! ## One outcome -/

theorem groups_eq : groups = pure aliasGroups := by
  refine visits_bind fun found hf => ?_
  have hkeys : found.mapM (fun group => do return ascending (← visits group)) =
      (pure (found.map id) : SetM (List (List String))) :=
    mapM_eq_pure fun g hg => visits_ascending (pairwise_member g (hf.mem_iff.mp hg))
  rw [hkeys, pure_bind, List.map_id]
  exact congrArg pure (PhraseSet.mergeSort_eq pairwise_aliasGroups hf)

section Rejoins

variable (token skill : String)

theorem tokenVariants_eq : tokenVariants token = pure (Skill.tokenVariants token) := by
  simp only [tokenVariants, Skill.tokenVariants]
  split
  · rfl
  · refine visits_bind fun l hl => congrArg pure (PhraseSet.ofList_congr fun x => ?_)
    exact ((hl.filter isSingleToken).cons (normalize token)).mem_iff

theorem pairwise_tokenVariants : (Skill.tokenVariants token).Pairwise (· < ·) := by
  simp only [Skill.tokenVariants]
  split
  · exact List.Pairwise.nil
  · exact PhraseSet.pairwise_ofList _

theorem alternatives_eq : alternatives token = pure (Skill.tokenVariants token) := by
  rw [alternatives, tokenVariants_eq, pure_bind]
  exact visits_ascending (pairwise_tokenVariants token)

theorem rejoins_eq : rejoins skill = pure (Skill.rejoins skill) := by
  simp only [rejoins, Skill.rejoins]
  split
  · rfl
  · rw [mapM_eq_pure fun token _ => alternatives_eq token, pure_bind]

end Rejoins

section Expansions

variable {g l l' : List String}

/-- No two members of a group tie for the longest. -/
theorem eq_of_length_eq : ∀ g ∈ aliasGroups, ∀ m ∈ g, ∀ n ∈ g, n.length = m.length → n = m := by
  decide

theorem longest?_perm (hg : g ∈ aliasGroups) (hl : l ⊆ g) (h : l'.Perm l) :
    longest? l' = longest? l := by
  by_cases hn : l = []
  · subst hn
    rw [h.eq_nil]
  · obtain ⟨m, hm, he, hmax⟩ := exists_longest hn
    rw [he]
    refine longest?_eq_some (h.mem_iff.mpr hm) fun n hn' hne => ?_
    have hmem : n ∈ l := h.mem_iff.mp hn'
    refine lt_of_le_of_ne (hmax n hmem) fun heq => hne ?_
    exact eq_of_length_eq g hg m (hl hm) n (hl hmem) heq

theorem addSwapsInside_eq (hg : g ∈ aliasGroups) (xs : List String) (phrase : String) :
    addSwapsInside g (.ofList xs) phrase = pure (.ofList (xs ++ swaps g phrase)) := by
  refine visits_bind fun found hf => ?_
  rw [longest?_perm hg (List.filter_subset_self g) (hf.filter (containsPhrase phrase)), swaps]
  cases longest? (g.filter (containsPhrase phrase)) with
  | none => simp
  | some old =>
    by_cases ho : old = phrase
    · simp [ho]
    · simp only [if_neg ho]
      refine visits_bind fun members hm => congrArg pure (PhraseSet.ofList_congr fun x => ?_)
      have hmap := (hm.filter (· ≠ old)).map (substitutePhrase phrase old)
      rw [List.mem_append, List.mem_append, PhraseSet.mem_ofList, hmap.mem_iff]

theorem addSwaps_eq (hg : g ∈ aliasGroups) (xs : List String) :
    addSwaps (.ofList xs) g = pure (.ofList (Skill.addSwaps xs g)) := by
  refine visits_bind fun snapshot hs => ?_
  rw [foldlM_add (addSwapsInside_eq hg), Skill.addSwaps]
  refine congrArg pure (PhraseSet.ofList_congr fun x => ?_)
  simp only [List.mem_append, List.mem_flatMap, hs.mem_iff, PhraseSet.mem_ofList]

theorem foldlM_addSwaps {gs : List (List String)} (hgs : gs ⊆ aliasGroups) (xs : List String) :
    gs.foldlM addSwaps (.ofList xs) = pure (.ofList (gs.foldl Skill.addSwaps xs)) := by
  induction gs generalizing xs with
  | nil => rfl
  | cons g gs ih =>
    obtain ⟨hg, hgs⟩ := List.cons_subset.mp hgs
    rw [List.foldlM_cons, addSwaps_eq hg, pure_bind, ih hgs, List.foldl_cons]

theorem expansions_eq (phrase : String) :
    expansions phrase = pure (.ofList (Skill.expansions phrase)) := by
  have hall := foldlM_addSwaps (List.Subset.refl aliasGroups) [phrase]
  rw [PhraseSet.ofList_singleton] at hall
  rw [expansions, groups_eq, pure_bind, hall, Skill.expansions]

theorem variants_eq (skill : String) : variants skill = pure (Skill.variants skill) := by
  simp only [variants, Skill.variants]
  split
  · rfl
  · refine visits_bind fun members hm => ?_
    split
    · rw [rejoins_eq, pure_bind, expansions_eq, pure_bind]
      refine congrArg pure (PhraseSet.ofList_congr fun x => ?_)
      simp only [List.mem_append, List.mem_cons, hm.mem_iff, PhraseSet.mem_ofList]
    · refine congrArg pure (PhraseSet.ofList_congr fun x => ?_)
      simp only [List.mem_append, List.mem_cons, hm.mem_iff, List.not_mem_nil, or_false]

end Expansions

end Shortlist.AnyOrder
