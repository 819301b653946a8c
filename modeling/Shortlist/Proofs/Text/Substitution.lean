import Mathlib.Algebra.Order.BigOperators.Group.List
import Mathlib.Algebra.Order.Group.Nat
import Shortlist.Proofs.Text.Phrase

/-! # Crowded phrases

Swapping every row of tokens from left to right is what a substitution is for. A substitution does
not look at the token behind a swapped row, so it swaps every row unless two rows follow each other
with nothing between them. Then the second row stays.
-/

namespace Shortlist.Text

section Rows

variable {α : Type} {old new ts : List α} {t x : α}

/-- Swaps every row of tokens from left to right, also a row right behind another. A positive count
tells how many tokens of a swapped row are left to drop. -/
def swapRows [DecidableEq α] (old new : List α) : Nat → List α → List α
  | _, [] => []
  | 0, t :: ts =>
    if old <+: t :: ts then new ++ swapRows old new (old.length - 1) ts
    else t :: swapRows old new 0 ts
  | k + 1, _ :: ts => swapRows old new k ts

/-- Of the rows taken from left to right, one stands right behind another. -/
inductive Crowded (old : List α) : List α → Prop
  | pair (ts : List α) : Crowded old (old ++ (old ++ ts))
  | keep {t : α} {ts : List α} : ¬ old <+: t :: ts → Crowded old ts → Crowded old (t :: ts)
  | pass {ts : List α} : Crowded old ts → Crowded old (old ++ ts)

section Swap

variable [DecidableEq α]

theorem swapRows_cons (h : ¬ old <+: t :: ts) :
    swapRows old new 0 (t :: ts) = t :: swapRows old new 0 ts := by
  rw [swapRows, if_neg h]

theorem swapRows_drop (us : List α) :
    swapRows old new us.length (us ++ ts) = swapRows old new 0 ts := by
  induction us with
  | nil => rfl
  | cons u us ih => exact ih

theorem swapRows_append (hn : old ≠ []) :
    swapRows old new 0 (old ++ ts) = new ++ swapRows old new 0 ts := by
  obtain ⟨o, os, rfl⟩ := List.exists_cons_of_ne_nil hn
  rw [List.cons_append, swapRows, if_pos (by simp), List.length_cons, Nat.add_sub_cancel,
    swapRows_drop]

theorem replaceTokens_one_ne (hn : old ≠ []) (hp : old <+: ts) (hx : x ∉ ts) (us : List α) :
    replaceTokens old new 1 ts ≠ x :: us := by
  obtain ⟨o, os, rfl⟩ := List.exists_cons_of_ne_nil hn
  obtain ⟨rest, rfl⟩ := hp
  intro h
  rw [List.cons_append, replaceTokens, List.cons.injEq] at h
  exact hx (by simp [h.1])

theorem replaceTokens_eq_swapRows (hn : old ≠ []) (h : ¬ Crowded old ts) :
    replaceTokens old new 0 ts = swapRows old new 0 ts := by
  -- A swap uses up a whole row, hence induction on the number of tokens.
  induction hl : ts.length using Nat.strongRecOn generalizing ts with
  | ind l ih =>
    by_cases hp : old <+: ts
    · obtain ⟨rest, rfl⟩ := hp
      have hrest : ¬ old <+: rest := by
        rintro ⟨rest, rfl⟩
        exact h (Crowded.pair rest)
      have hlt : rest.length < l := by
        rw [← hl, List.length_append]
        exact Nat.lt_add_of_pos_left (List.length_pos_iff.mpr hn)
      rw [replaceTokens_append hn, swapRows_append hn, replaceTokens_one hrest,
        ih _ hlt (fun hc => h hc.pass) rfl]
    · cases ts with
      | nil => rfl
      | cons t ts =>
        have hlt : ts.length < l := by
          rw [← hl]
          exact Nat.lt_add_one _
        rw [replaceTokens_cons hp, swapRows_cons hp, ih _ hlt (fun hc => h (hc.keep hp)) rfl]

/-- In a crowded text a token that does not occur in it shows the row that stays. -/
theorem Crowded.replaceTokens_ne (h : Crowded old ts) (hn : old ≠ []) (hx : x ∉ ts)
    (us : List α) : replaceTokens old (x :: us) 0 ts ≠ swapRows old (x :: us) 0 ts := by
  -- Behind a swapped row that another one follows, one side has `x` and the other has not.
  have behind {rest : List α} (hp : old <+: rest) (hr : x ∉ rest) :
      replaceTokens old (x :: us) 1 rest ≠ swapRows old (x :: us) 0 rest := by
    have hne (vs : List α) : replaceTokens old (x :: us) 1 rest ≠ x :: vs :=
      replaceTokens_one_ne hn hp hr vs
    obtain ⟨rest, rfl⟩ := hp
    rw [swapRows_append hn]
    exact hne _
  induction h with
  | pair rest =>
    rw [replaceTokens_append hn, swapRows_append hn, ne_eq, List.append_cancel_left_eq]
    exact behind (List.prefix_append old rest) fun hm => hx (List.mem_append_right old hm)
  | keep hp _ ih =>
    rw [replaceTokens_cons hp, swapRows_cons hp, ne_eq, List.cons.injEq, not_and]
    exact fun _ => ih fun hm => hx (List.mem_cons_of_mem _ hm)
  | @pass rest _ ih =>
    have hr : x ∉ rest := fun hm => hx (List.mem_append_right old hm)
    rw [replaceTokens_append hn, swapRows_append hn, ne_eq, List.append_cancel_left_eq]
    by_cases hp : old <+: rest
    · exact behind hp hr
    · rw [replaceTokens_one hp]
      exact ih hr

end Swap

end Rows

section Phrase

theorem isWord_replicate (n : Nat) : IsWord (List.replicate (n + 1) 'a') where
  ne_nil := by simp
  isWordChar c hc := by
    rw [List.eq_of_mem_replicate hc]
    decide
  isSmall c hc := by
    rw [List.eq_of_mem_replicate hc]
    constructor <;> decide

theorem exists_isToken_not_mem (ts : List String) : ∃ t, IsToken t ∧ t ∉ ts := by
  let n := (ts.map String.length).sum
  refine ⟨String.ofList (List.replicate (n + 1) 'a'), ?_, fun hm => ?_⟩
  · rw [IsToken, String.toList_ofList]
    exact isWord_replicate n
  · -- It is longer than all of them together.
    have hle := List.le_sum_of_mem (List.mem_map_of_mem (f := String.length) hm)
    rw [String.length_ofList, List.length_replicate] at hle
    exact Nat.not_succ_le_self n hle

theorem substitutePhrase_empty {us : List String} (hn : us ≠ []) (hu : ∀ u ∈ us, IsToken u)
    (new : String) : substitutePhrase "" (join " " us) new = "" := by
  obtain ⟨u, rest, rfl⟩ := List.exists_cons_of_ne_nil hn
  have hw : IsWord u.toList := hu u List.mem_cons_self
  obtain ⟨c, w, hc⟩ := List.exists_cons_of_ne_nil hw.ne_nil
  have hspace : c ≠ ' ' := by
    rintro rfl
    exact hw.space_not_mem (by simp [hc])
  have hold : padded (join " " (u :: rest)).toList =
      ' ' :: c :: (w ++ ' ' :: closed (rest.map String.toList)) := by
    rw [padded_join hn, List.map_cons, closed_cons, hc, List.cons_append]
  have hkept : replaceFrom (padded (join " " (u :: rest)).toList) (padded new.toList) 0
      [' ', ' '] = [' ', ' '] := by
    rw [hold, replaceFrom_of_not_isPrefix (by simp [hspace]),
      replaceFrom_of_not_isPrefix (by simp), replaceFrom]
  rw [substitutePhrase, replaceAll]
  change String.ofList (stripChars (replaceFrom _ _ 0 [' ', ' '])) = ""
  rw [hkept]
  decide

theorem tokens_substitutePhrase (phrase : String) {old new : String} (ho : normalize old ≠ "")
    (hn : normalize new ≠ "") :
    tokens (substitutePhrase (normalize phrase) (normalize old) (normalize new)) =
      replaceTokens (tokens (normalize old)) (tokens (normalize new)) 0
        (tokens (normalize phrase)) := by
  have ho' := tokens_normalize_ne_nil ho
  have hn' := tokens_normalize_ne_nil hn
  by_cases hp : normalize phrase = ""
  · have hj := substitutePhrase_empty ho' (fun _ => isToken_of_mem_tokens_normalize)
      (normalize new)
    rw [join_tokens] at hj
    rw [hp, hj]
    simp [tokens]
  · have hj := substitutePhrase_join (tokens_normalize_ne_nil hp) ho' hn'
      (fun _ => isToken_of_mem_tokens_normalize) (fun _ => isToken_of_mem_tokens_normalize)
      (fun _ => isToken_of_mem_tokens_normalize)
    rw [join_tokens, join_tokens, join_tokens] at hj
    rw [hj]
    refine tokens_join fun t ht => ?_
    exact (mem_replaceTokens ht).elim isToken_of_mem_tokens_normalize
      isToken_of_mem_tokens_normalize

/-- A substitution swaps every occurrence of a phrase, for whatever other phrase, in just those
texts in which no occurrence stands right behind another. In all texts it swaps from left to right
what it looks at, and it does not look at the token behind a swapped occurrence. -/
theorem substitutePhrase_complete_iff (phrase old : String) (ho : normalize old ≠ "") :
    (∀ new, normalize new ≠ "" →
      tokens (substitutePhrase (normalize phrase) (normalize old) (normalize new)) =
        replaceTokens (tokens (normalize old)) (tokens (normalize new)) 0
          (tokens (normalize phrase))) ∧
    ((∀ new, normalize new ≠ "" →
      tokens (substitutePhrase (normalize phrase) (normalize old) (normalize new)) =
        swapRows (tokens (normalize old)) (tokens (normalize new)) 0
          (tokens (normalize phrase))) ↔
      ¬ Crowded (tokens (normalize old)) (tokens (normalize phrase))) := by
  have hold := tokens_normalize_ne_nil ho
  have hlaw {new : String} (hn : normalize new ≠ "") := tokens_substitutePhrase phrase ho hn
  refine ⟨fun new hn => hlaw hn, fun hall hc => ?_, fun hc new hn => ?_⟩
  · obtain ⟨t, ht, hm⟩ := exists_isToken_not_mem (tokens (normalize phrase))
    have hn : normalize t ≠ "" := by
      rw [ht.normalize_eq]
      rintro rfl
      exact ht.ne_nil rfl
    have heq := hall t hn
    rw [hlaw hn, ht.normalize_eq, ht.tokens_eq] at heq
    exact hc.replaceTokens_ne hold hm [] heq
  · rw [hlaw hn]
    exact replaceTokens_eq_swapRows hold hc

theorem substitutePhrase_complete_iff_apart :
    normalize "ci cd" ≠ "" ∧ normalize "cicd" ≠ "" ∧
      ¬ Crowded (tokens (normalize "ci cd")) (tokens (normalize "ci cd in ci cd")) ∧
      tokens (substitutePhrase (normalize "ci cd in ci cd") (normalize "ci cd")
        (normalize "cicd")) = ["cicd", "in", "cicd"] := by
  have hp : tokens (normalize "ci cd in ci cd") = ["ci", "cd", "in", "ci", "cd"] := by
    decide +kernel
  have ho : tokens (normalize "ci cd") = ["ci", "cd"] := by decide +kernel
  have hold : normalize "ci cd" ≠ "" := by decide +kernel
  have hnew : normalize "cicd" ≠ "" := by decide +kernel
  have hc : ¬ Crowded (tokens (normalize "ci cd")) (tokens (normalize "ci cd in ci cd")) := by
    rw [ho, hp]
    exact fun h => h.replaceTokens_ne (x := "x") (by decide) (by decide) [] (by decide)
  refine ⟨hold, hnew, hc, ?_⟩
  rw [(substitutePhrase_complete_iff "ci cd in ci cd" "ci cd" hold).2.mpr hc "cicd" hnew]
  decide +kernel

/-- The second of two neighbours stays. -/
theorem substitutePhrase_misses_neighbour :
    tokens (substitutePhrase (normalize "ci cd ci cd pipelines") (normalize "ci cd")
        (normalize "cicd")) = ["cicd", "ci", "cd", "pipelines"] ∧
      swapRows (tokens (normalize "ci cd")) (tokens (normalize "cicd")) 0
        (tokens (normalize "ci cd ci cd pipelines")) = ["cicd", "cicd", "pipelines"] := by
  decide +kernel

end Phrase

end Shortlist.Text
