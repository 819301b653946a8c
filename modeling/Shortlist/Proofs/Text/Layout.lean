import Shortlist.Proofs.Skill.Variants

/-! # Words and gaps

Every text is a row of words with gaps between them, and its words are its maximal runs of word
characters. The normal form holds the words of the lower-cased text, one space in each gap, and
nothing in it is touched when it is normalized again.
-/

namespace Shortlist.Text

structure Placed where
  gap : List Char
  word : List Char
  isWordChar_gap : ∀ c ∈ gap, isWordChar c = false
  word_ne_nil : word ≠ []
  isWordChar_word : ∀ c ∈ word, isWordChar c = true

/-- A text in words and gaps. Only the gaps at its ends may be empty, so no word can be extended. -/
structure Layout where
  placed : List Placed
  trail : List Char
  isWordChar_trail : ∀ c ∈ trail, isWordChar c = false
  gap_ne_nil : ∀ p ∈ placed.tail, p.gap ≠ []

/-- Words behind their gaps, and what follows them. -/
def spell (placed : List Placed) (trail : List Char) : List Char :=
  placed.foldr (fun p rest => p.gap ++ (p.word ++ rest)) trail

namespace Layout

def chars (l : Layout) : List Char := spell l.placed l.trail

def text (l : Layout) : String := String.ofList l.chars

def words (l : Layout) : List (List Char) := l.placed.map Placed.word

end Layout

section Runs

variable {a b gap trail : List Char} {ps : List Placed}

@[simp] theorem spell_nil : spell [] trail = trail := rfl

@[simp] theorem spell_cons (p : Placed) :
    spell (p :: ps) trail = p.gap ++ (p.word ++ spell ps trail) := rfl

theorem wordRuns_append (h : ∀ c ∈ b.head?, isWordChar c = false) :
    wordRuns (a ++ b) = wordRuns a ++ wordRuns b := by
  cases b with
  | nil => simp
  | cons c b =>
    have hc := h c rfl
    rw [wordRuns_append_cons hc, ← List.nil_append (c :: b), wordRuns_append_cons hc, wordRuns_nil,
      List.nil_append]

theorem wordRuns_gap_append (h : ∀ c ∈ gap, isWordChar c = false) :
    wordRuns (gap ++ b) = wordRuns b := by
  induction gap with
  | nil => rfl
  | cons c gap ih =>
    obtain ⟨hc, hgap⟩ := List.forall_mem_cons.mp h
    rw [List.cons_append, ← List.nil_append (c :: (gap ++ b)), wordRuns_append_cons hc, ih hgap,
      wordRuns_nil, List.nil_append]

theorem of_head?_spell {P : Char → Prop} (ht : ∀ c ∈ trail, P c)
    (hg : ∀ p ∈ ps, ∀ c ∈ p.gap, P c) (hp : ∀ p ∈ ps, p.gap ≠ []) :
    ∀ c ∈ (spell ps trail).head?, P c := by
  intro c hc
  cases ps with
  | nil => exact ht c (List.mem_of_head? hc)
  | cons p ps =>
    obtain ⟨d, gap, hgap⟩ := List.exists_cons_of_ne_nil (hp p List.mem_cons_self)
    rw [spell_cons, hgap, List.cons_append, List.head?_cons, Option.mem_some_iff] at hc
    exact hg p List.mem_cons_self c (hgap ▸ hc ▸ List.mem_cons_self)

theorem wordRuns_spell (ht : ∀ c ∈ trail, isWordChar c = false)
    (hp : ∀ p ∈ ps.tail, p.gap ≠ []) : wordRuns (spell ps trail) = ps.map Placed.word := by
  induction ps with
  | nil => exact wordRuns_eq_nil ht
  | cons p ps ih =>
    have hgaps : ∀ q ∈ ps, q.gap ≠ [] := hp
    rw [spell_cons, wordRuns_gap_append p.isWordChar_gap,
      wordRuns_append (of_head?_spell ht (fun q _ => q.isWordChar_gap) hgaps),
      wordRuns_eq_singleton p.word_ne_nil p.isWordChar_word,
      ih fun q hq => hgaps q (List.mem_of_mem_tail hq)]
    rfl

end Runs

namespace Layout

/-- The words of a text are its maximal runs, however it was laid out. -/
theorem wordRuns_chars (l : Layout) : wordRuns l.chars = l.words :=
  wordRuns_spell l.isWordChar_trail l.gap_ne_nil

theorem filter_chars (l : Layout) : l.chars.filter isWordChar = l.words.flatten := by
  have hspell : ∀ ps : List Placed,
      (spell ps l.trail).filter isWordChar = (ps.map Placed.word).flatten := by
    intro ps
    induction ps with
    | nil => simpa using l.isWordChar_trail
    | cons p ps ih =>
      have hgap : p.gap.filter isWordChar = [] := by simpa using p.isWordChar_gap
      have hword : p.word.filter isWordChar = p.word := by simpa using p.isWordChar_word
      simp [hgap, hword, ih]
  exact hspell l.placed

theorem exists_chars_eq (cs : List Char) : ∃ l : Layout, l.chars = cs := by
  induction cs with
  | nil => exact ⟨⟨[], [], by simp, by simp⟩, rfl⟩
  | cons c cs ih =>
    obtain ⟨⟨placed, trail, ht, hp⟩, rfl⟩ := ih
    cases hc : isWordChar c with
    | false =>
      -- The character widens the first gap.
      cases placed with
      | nil => exact ⟨⟨[], c :: trail, by simpa [hc] using ht, by simp⟩, rfl⟩
      | cons p ps =>
        have hgap : ∀ d ∈ c :: p.gap, isWordChar d = false :=
          List.forall_mem_cons.mpr ⟨hc, p.isWordChar_gap⟩
        exact ⟨⟨⟨c :: p.gap, p.word, hgap, p.word_ne_nil, p.isWordChar_word⟩ :: ps, trail, ht, hp⟩,
          rfl⟩
    | true =>
      -- The character begins a word, or lengthens the first one.
      have halone : ∀ d ∈ [c], isWordChar d = true := by simpa using hc
      cases placed with
      | nil => exact ⟨⟨[⟨[], [c], by simp, by simp, halone⟩], trail, ht, by simp⟩, rfl⟩
      | cons p ps =>
        by_cases hgap : p.gap = []
        · have hword : ∀ d ∈ c :: p.word, isWordChar d = true :=
            List.forall_mem_cons.mpr ⟨hc, p.isWordChar_word⟩
          refine ⟨⟨⟨[], c :: p.word, by simp, by simp, hword⟩ :: ps, trail, ht, hp⟩, ?_⟩
          simp [chars, hgap]
        · exact ⟨⟨⟨[], [c], by simp, by simp, halone⟩ :: p :: ps, trail, ht,
            List.forall_mem_cons.mpr ⟨hgap, hp⟩⟩, rfl⟩

end Layout

theorem flatten_wordRuns (cs : List Char) : (wordRuns cs).flatten = cs.filter isWordChar := by
  obtain ⟨l, rfl⟩ := Layout.exists_chars_eq cs
  rw [l.wordRuns_chars, l.filter_chars]

/-! ## Normal forms -/

section NormalForm

variable {c : Char} {s t : String}

theorem IsSmall.lower_singleton (h : IsSmall c) :
    lower (String.singleton c) = String.singleton c := by
  apply String.toList_inj.mp
  rw [lower, String.toList_ofList, lowerChars_eq_self (by simpa using h)]

theorem IsToken.lower_eq (h : IsToken t) : lower t = t := by
  rw [lower, lowerChars_eq_self h.isSmall, String.ofList_toList]

theorem IsToken.ne_empty (h : IsToken t) : t ≠ "" := by
  rintro rfl
  exact h.ne_nil rfl

theorem ofTokens_normalize (s : String) :
    PhraseSet.ofTokens (normalize s) = PhraseSet.ofList (tokens (normalize s)) := by
  have hkeep : (tokens (normalize s)).filter (!·.isEmpty) = tokens (normalize s) := by
    rw [List.filter_eq_self]
    intro t ht
    simpa using (isToken_of_mem_tokens_normalize ht).ne_empty
  rw [PhraseSet.ofTokens, hkeep]

/-- The tokens of a normal form are the words of the lower-cased text, and the normal form joins
them with single spaces. None is empty, and lower-casing leaves them alone, as a whole and in every
character. Normalizing a second time changes nothing. -/
theorem normalize_is_normal (s : String) :
    (∃ l : Layout, l.text = lower s) ∧
    (∀ l : Layout, l.text = lower s →
      tokens (normalize s) = l.words.map String.ofList ∧
      normalize s = join " " (l.words.map String.ofList)) ∧
    (∀ t ∈ tokens (normalize s), t ≠ "" ∧ lower t = t ∧
      ∀ c ∈ t.toList, isWordChar c = true ∧ lower (String.singleton c) = String.singleton c) ∧
    join " " (tokens (normalize s)) = normalize s ∧
    PhraseSet.ofTokens (normalize s) = PhraseSet.ofList (tokens (normalize s)) ∧
    (∀ t, t ∈ PhraseSet.ofTokens (normalize s) ↔ t ∈ tokens (normalize s)) ∧
    normalize (normalize s) = normalize s := by
  refine ⟨?_, fun l hl => ?_, fun t ht => ?_, join_tokens _, ofTokens_normalize s, fun t => ?_,
    normalize_normalize s⟩
  · obtain ⟨l, hl⟩ := Layout.exists_chars_eq (lowerChars s.toList)
    exact ⟨l, by rw [Layout.text, hl, lower]⟩
  · have hchars : l.chars = lowerChars s.toList := String.ofList_injective hl
    have htokens : tokens (normalize s) = l.words.map String.ofList := by
      rw [tokens_normalize, ← hchars, l.wordRuns_chars]
    exact ⟨htokens, by rw [← htokens, join_tokens]⟩
  · have htoken := isToken_of_mem_tokens_normalize ht
    exact ⟨htoken.ne_empty, htoken.lower_eq, fun c hc =>
      ⟨htoken.isWordChar c hc, (htoken.isSmall c hc).lower_singleton⟩⟩
  · rw [ofTokens_normalize, PhraseSet.mem_ofList]

/-- A capital that becomes a letter with a mark falls apart at the mark. -/
example : tokens (normalize "C++/İstanbul_2024") = ["c", "i", "stanbul", "2024"] := by
  decide

end NormalForm

end Shortlist.Text
