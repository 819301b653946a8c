import Shortlist.Proofs.Text.Words

/-! # Tokens

The tokens of a normal form are its words. Splitting and joining are inverse to each other on normal
forms, normalizing a normal form changes nothing, and texts with a space between them are normalized
one by one.
-/

namespace Shortlist.Text

theorem splitChars_eq_splitOn (sep : Char) (cs : List Char) :
    splitChars sep cs = cs.splitOn sep := by
  induction cs with
  | nil => simp [splitChars]
  | cons c cs ih =>
    obtain ⟨first, rest, hs⟩ := List.exists_cons_of_ne_nil (List.splitOn_ne_nil sep cs)
    rw [List.splitOn_cons_eq_if_modifyHead, splitChars, ih, hs]
    by_cases hc : c = sep <;> simp [hc]

theorem toList_join (ts : List String) :
    (join " " ts).toList = [' '].intercalate (ts.map String.toList) := by
  simp [join]

theorem join_cons_cons (sep t u : String) (ts : List String) :
    join sep (t :: u :: ts) = t ++ sep ++ join sep (u :: ts) := by
  apply String.toList_inj.mp
  simp [join, List.intercalate_cons_cons]

theorem join_tokens (s : String) : join " " (tokens s) = s := by
  apply String.toList_inj.mp
  rw [toList_join, tokens]
  split
  · next h => simpa using h.symm
  · simp [split, splitChars_eq_splitOn, List.map_map, Function.comp_def]

def IsToken (t : String) : Prop := IsWord t.toList

section IsToken

variable {t s : String} {ts : List String}

theorem isWord_of_mem_map (h : ∀ t ∈ ts, IsToken t) : ∀ w ∈ ts.map String.toList, IsWord w :=
  List.forall_mem_map.mpr h

theorem tokens_join (h : ∀ t ∈ ts, IsToken t) : tokens (join " " ts) = ts := by
  by_cases hn : ts = []
  · subst hn
    rfl
  · have hw := isWord_of_mem_map h
    have hne : ts.map String.toList ≠ [] := by simpa using hn
    have hj : join " " ts ≠ "" := by
      intro he
      have := congrArg String.toList he
      rw [toList_join] at this
      exact intercalate_ne_nil hne hw this
    rw [tokens, if_neg (by simpa using hj), split, toList_join, splitChars_eq_splitOn,
      List.splitOn_intercalate _ (fun w hm => (hw w hm).space_not_mem) hne]
    simp [List.map_map, Function.comp_def]

theorem normalize_eq_join (s : String) :
    normalize s = join " " ((wordRuns (lowerChars s.toList)).map String.ofList) := by
  rw [normalize, normalizeChars_eq_intercalate, join]
  simp [Function.comp_def]

theorem tokens_normalize (s : String) :
    tokens (normalize s) = (wordRuns (lowerChars s.toList)).map String.ofList := by
  rw [normalize_eq_join]
  refine tokens_join (List.forall_mem_map.mpr fun w hw => ?_)
  rw [IsToken, String.toList_ofList]
  exact isWord_of_mem_wordRuns hw

theorem normalize_eq_empty (h : isBlankText s = true) : normalize s = "" := by
  have hb : ∀ c ∈ s.toList, isBlank c = true := List.all_eq_true.mp h
  rw [normalize_eq_join, lowerChars_eq_self fun c hc => isSmall_of_isBlank (hb c hc),
    wordRuns_eq_nil fun c hc => isWordChar_of_isBlank (hb c hc)]
  rfl

theorem isToken_of_mem_tokens_normalize (h : t ∈ tokens (normalize s)) : IsToken t := by
  rw [tokens_normalize] at h
  obtain ⟨w, hw, rfl⟩ := List.mem_map.mp h
  simpa [IsToken] using isWord_of_mem_wordRuns hw

theorem tokens_normalize_ne_nil (h : normalize s ≠ "") : tokens (normalize s) ≠ [] := by
  intro hn
  apply h
  rw [← join_tokens (normalize s), hn]
  rfl

theorem normalize_eq_iff_tokens_eq :
    normalize s = normalize t ↔ tokens (normalize s) = tokens (normalize t) := by
  constructor
  · exact congrArg tokens
  · intro h
    rw [← join_tokens (normalize s), h, join_tokens]

theorem normalize_join (h : ∀ t ∈ ts, IsToken t) : normalize (join " " ts) = join " " ts := by
  rw [normalize, toList_join, normalizeChars_intercalate (isWord_of_mem_map h), ← toList_join,
    String.ofList_toList]

@[simp] theorem normalize_normalize (s : String) : normalize (normalize s) = normalize s := by
  rw [← join_tokens (normalize s)]
  exact normalize_join fun _ => isToken_of_mem_tokens_normalize

theorem IsToken.normalize_eq (h : IsToken t) : normalize t = t := by
  have hj : join " " [t] = t := by simp [join]
  rw [← hj]
  exact normalize_join (by simpa using h)

theorem IsToken.tokens_eq (h : IsToken t) : tokens t = [t] := by
  have hj : join " " [t] = t := by simp [join]
  rw [← hj, tokens_join (by simpa using h), hj]

/-- Tokens are the texts whose normal form has just this one token. -/
theorem isToken_iff : IsToken t ↔ tokens (normalize t) = [t] := by
  constructor
  · intro h
    rw [h.normalize_eq, h.tokens_eq]
  · intro h
    exact isToken_of_mem_tokens_normalize (s := t) (h ▸ List.mem_singleton_self t)

theorem tokens_normalize_append_space (s t : String) :
    tokens (normalize (s ++ " " ++ t)) = tokens (normalize s) ++ tokens (normalize t) := by
  have hchars : (s ++ " " ++ t).toList = s.toList ++ ' ' :: t.toList := by simp
  have hspace : lowerChar ' ' = ' ' := (isSmall_of_isBlank (by decide)).fixed
  rw [tokens_normalize, tokens_normalize, tokens_normalize, hchars,
    isNeutral_space.lowerChars_append_cons, hspace, wordRuns_append_cons isWordChar_space,
    List.map_append]

end IsToken

end Shortlist.Text
