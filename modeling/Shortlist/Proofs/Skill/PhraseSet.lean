import Mathlib.Data.List.Sort
import Mathlib.Data.String.Basic
import Shortlist.Skill.PhraseSet

/-! # Sets of phrases as lists

A set is determined by its members, so the list in ascending order can stand for it.
-/

namespace Shortlist.PhraseSet

variable {x : String} {xs ys : List String}

theorem mem_dropRepeats : x ∈ dropRepeats xs ↔ x ∈ xs := by
  fun_induction dropRepeats xs with
  | case1 => rfl
  | case2 => rfl
  | case3 y rest ih => rw [ih]; simp
  | case4 y z rest _ ih => rw [List.mem_cons, ih, ← List.mem_cons]

@[simp] theorem mem_ofList : x ∈ ofList xs ↔ x ∈ xs := by
  rw [ofList, mem_dropRepeats, List.mem_mergeSort]

theorem meets_iff : meets xs ys = true ↔ ∃ x ∈ xs, x ∈ ys := by
  simp [meets]

theorem pairwise_dropRepeats (h : xs.Pairwise fun a b => ¬ b < a) :
    (dropRepeats xs).Pairwise (· < ·) := by
  fun_induction dropRepeats xs with
  | case1 => exact List.Pairwise.nil
  | case2 x => exact List.pairwise_singleton _ x
  | case3 x rest ih => exact ih (List.pairwise_cons.mp h).2
  | case4 x y rest hne ih =>
    obtain ⟨hx, hrest⟩ := List.pairwise_cons.mp h
    refine List.pairwise_cons.mpr ⟨fun z hz => ?_, ih hrest⟩
    have hxy : x < y := lt_of_le_of_ne (not_lt.mp (hx y List.mem_cons_self)) hne
    rcases List.mem_cons.mp (mem_dropRepeats.mp hz) with rfl | hz
    · exact hxy
    · exact hxy.trans_le (not_lt.mp ((List.pairwise_cons.mp hrest).1 z hz))

theorem pairwise_mergeSort {α : Type} [LinearOrder α] (l : List α) :
    (l.mergeSort fun a b => decide ¬ b < a).Pairwise fun a b => ¬ b < a := by
  refine (List.pairwise_mergeSort ?_ ?_ l).imp of_decide_eq_true
  · intro a b c hab hbc
    simp only [decide_eq_true_eq, not_lt] at hab hbc ⊢
    exact hab.trans hbc
  · intro a b
    simp only [Bool.or_eq_true, decide_eq_true_eq, not_lt]
    exact le_total a b

/-- However a list without repetition is shuffled, sorting puts it in ascending order. -/
theorem mergeSort_eq {α : Type} [LinearOrder α] {l s : List α} (hs : s.Pairwise (· < ·))
    (h : l.Perm s) : (l.mergeSort fun a b => decide ¬ b < a) = s := by
  refine ((List.mergeSort_perm l _).trans h).eq_of_pairwise (fun a b _ _ hba hab => ?_)
    (pairwise_mergeSort l) (hs.imp not_lt_of_gt)
  exact le_antisymm (not_lt.mp hba) (not_lt.mp hab)

theorem pairwise_ofList (xs : List String) : (ofList xs).Pairwise (· < ·) :=
  pairwise_dropRepeats (pairwise_mergeSort xs)

/-- Lists with the same members are the same set. -/
theorem ofList_congr (h : ∀ x, x ∈ xs ↔ x ∈ ys) : ofList xs = ofList ys := by
  apply (pairwise_ofList xs).eq_of_mem_iff (pairwise_ofList ys)
  intro x
  rw [mem_ofList, mem_ofList, h]

theorem ofList_append (xs ys : List String) : ofList (ofList xs ++ ys) = ofList (xs ++ ys) :=
  ofList_congr fun x => by rw [List.mem_append, List.mem_append, mem_ofList]

@[simp] theorem ofList_nil : ofList [] = [] := by
  simp [ofList, dropRepeats]

@[simp] theorem ofList_singleton (x : String) : ofList [x] = [x] := by
  simp [ofList, dropRepeats]

end Shortlist.PhraseSet
