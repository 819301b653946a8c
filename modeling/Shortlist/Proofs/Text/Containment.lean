import Shortlist.Proofs.Text.Phrase

/-! # Whole words

A normal form is searched for a phrase by characters, with spaces around both. What is found are
rows of tokens: on either side of every occurrence stand whole tokens and nothing else, so none of
them begins or ends inside a word.
-/

namespace Shortlist.Text

section Words

variable {o ws : List (List Char)} {a b x y w : List Char}

def opened (ws : List (List Char)) : List Char := ws.flatMap (' ' :: ·)

@[simp] theorem opened_nil : opened [] = [] := rfl

@[simp] theorem opened_cons (w : List Char) (ws : List (List Char)) :
    opened (w :: ws) = ' ' :: w ++ opened ws := by simp [opened]

theorem exists_append_of_append_space_eq (hw : ' ' ∉ w) (h : a ++ ' ' :: x = w ++ y) :
    ∃ a', a = w ++ a' ∧ a' ++ ' ' :: x = y := by
  induction w generalizing a with
  | nil => exact ⟨a, rfl, h⟩
  | cons c w ih =>
    rw [List.mem_cons, not_or] at hw
    cases a with
    | nil => exact (hw.1 (List.cons.inj h).1).elim
    | cons d a =>
      rw [List.cons_append, List.cons_append, List.cons.injEq] at h
      obtain ⟨rfl, h⟩ := h
      obtain ⟨a', rfl, ha'⟩ := ih hw.2 h
      exact ⟨a', rfl, ha'⟩

theorem exists_of_closed_eq (ho : ∀ w ∈ o, IsWord w) (hw : ∀ w ∈ ws, IsWord w)
    (h : closed ws = closed o ++ b) : ∃ us, ws = o ++ us ∧ b = closed us := by
  obtain ⟨us, rfl⟩ := (closed_prefix_iff ho hw).mp ⟨b, h.symm⟩
  have hcancel : closed o ++ b = closed o ++ closed us := by
    rw [← h]
    simp [closed]
  exact ⟨us, rfl, List.append_cancel_left hcancel⟩

theorem exists_of_space_cons_closed_eq (ho : ∀ w ∈ o, IsWord w) (hw : ∀ w ∈ ws, IsWord w)
    (h : ' ' :: closed ws = a ++ ' ' :: (closed o ++ b)) :
    ∃ ts us, ws = ts ++ o ++ us ∧ a = opened ts ∧ b = closed us := by
  induction ws generalizing a with
  | nil =>
    cases a with
    | nil =>
      obtain ⟨us, hws, rfl⟩ := exists_of_closed_eq ho hw (List.cons.inj h).2
      exact ⟨[], us, hws, rfl, rfl⟩
    | cons c a => simp at h
  | cons w ws ih =>
    obtain ⟨hw', hws⟩ := List.forall_mem_cons.mp hw
    cases a with
    | nil =>
      obtain ⟨us, hws, rfl⟩ := exists_of_closed_eq ho hw (List.cons.inj h).2
      exact ⟨[], us, hws, rfl, rfl⟩
    | cons c a =>
      rw [closed_cons, List.cons_append, List.cons.injEq] at h
      obtain ⟨rfl, h⟩ := h
      obtain ⟨a', rfl, ha'⟩ := exists_append_of_append_space_eq hw'.space_not_mem h.symm
      obtain ⟨ts, us, rfl, rfl, rfl⟩ := ih hws ha'.symm
      exact ⟨w :: ts, us, rfl, by simp, rfl⟩

end Words

section Tokens

/-- A phrase that is no empty text stands in a text exactly where its tokens stand in a row. Every
occurrence has whole tokens, each with its space, on both sides. -/
theorem containsPhrase_iff_tokens_infix (s t : String) (ht : normalize t ≠ "") :
    (containsPhrase (normalize s) (normalize t) = true ↔
      tokens (normalize t) <:+: tokens (normalize s)) ∧
    ∀ a b, padded (normalize s).toList = a ++ padded (normalize t).toList ++ b →
      ∃ us vs, tokens (normalize s) = us ++ tokens (normalize t) ++ vs ∧
        a = opened (us.map String.toList) ∧ b = closed (vs.map String.toList) := by
  have hn := tokens_normalize_ne_nil ht
  have hneedle : ∀ u ∈ tokens (normalize t), IsToken u := fun _ => isToken_of_mem_tokens_normalize
  have hhay : ∀ u ∈ tokens (normalize s), IsToken u := fun _ => isToken_of_mem_tokens_normalize
  constructor
  · have hiff := containsPhrase_join_iff hhay hneedle
    rwa [join_tokens, join_tokens, and_iff_right hn] at hiff
  · intro a b h
    by_cases hs : tokens (normalize s) = []
    · have hlong := congrArg List.length h
      have hpos : 0 < (normalize t).toList.length := List.length_pos_of_ne_nil (by simpa using ht)
      rw [← join_tokens (normalize s), hs] at hlong
      simp [padded, join] at hlong
      omega
    · rw [← join_tokens (normalize s), ← join_tokens (normalize t), padded_join hs, padded_join hn,
        List.append_assoc, List.cons_append] at h
      obtain ⟨us, vs, hws, rfl, rfl⟩ := exists_of_space_cons_closed_eq
        (isWord_of_mem_map hneedle) (isWord_of_mem_map hhay) h
      refine ⟨us.map String.ofList, vs.map String.ofList, ?_, by simp, by simp⟩
      have htokens := congrArg (List.map String.ofList) hws
      simpa [Function.comp_def] using htokens

/-- The phrase is found behind "restful", not inside it, and once more behind itself. -/
theorem containsPhrase_iff_tokens_infix_restful :
    normalize "Rest_API!" ≠ "" ∧
    containsPhrase (normalize "REST APIs: a RESTful rest-API, rest api") (normalize "Rest_API!") =
      true ∧
    ∃ us vs, tokens (normalize "REST APIs: a RESTful rest-API, rest api") =
        us ++ tokens (normalize "Rest_API!") ++ vs ∧
      " rest apis a restful".toList = opened (us.map String.toList) ∧
      "rest api ".toList = closed (vs.map String.toList) := by
  have hn : normalize "Rest_API!" ≠ "" := by decide +kernel
  obtain ⟨hiff, hplace⟩ :=
    containsPhrase_iff_tokens_infix "REST APIs: a RESTful rest-API, rest api" "Rest_API!" hn
  exact ⟨hn, hiff.mpr (by decide +kernel), hplace _ _ (by decide +kernel)⟩

end Tokens

end Shortlist.Text
