import Mathlib.Data.List.Chain
import Shortlist.Proofs.Text.Layout

/-! # The gaps between words

Lower-casing looks beyond a word in one case only. A capital sigma takes its final form behind a
cased character and in front of none, and on both sides the characters that are ignored, full stops
and apostrophes among them, do not end the search. So a normal form depends on the words of a text
and on the forms of its capital sigmas, and on nothing else that stands in the gaps.
-/

namespace Shortlist.Text

/-! ## Gaps stay gaps -/

theorem CodeRanges.contains_of_mem {ranges : CodeRanges} {r : Nat × Nat} {n : Nat}
    (ha : ranges.Pairwise fun r s => r.1 ≤ s.1) (hr : r ∈ ranges) (hlow : r.1 ≤ n)
    (hhigh : n ≤ r.2) : ranges.contains n = true := by
  induction ranges with
  | nil => simp at hr
  | cons s ranges ih =>
    obtain ⟨hs, ha⟩ := List.pairwise_cons.mp ha
    have hbelow : s.1 ≤ n := by
      rcases List.mem_cons.mp hr with rfl | hr
      · exact hlow
      · exact Nat.le_trans (hs r hr) hlow
    rw [CodeRanges.contains, if_neg (Nat.not_lt.mpr hbelow), Bool.or_eq_true, decide_eq_true_eq]
    rcases List.mem_cons.mp hr with rfl | hr
    · exact Or.inl hhigh
    · exact Or.inr (ih ha hr)

theorem pairwise_wordRanges : wordRanges.Pairwise fun r s => r.1 ≤ s.1 := by
  have hchain : wordRanges.IsChain fun r s => r.1 ≤ s.1 := by decide +kernel
  have htrans : IsTrans (Nat × Nat) fun r s => r.1 ≤ s.1 := ⟨fun _ _ _ => Nat.le_trans⟩
  exact List.isChain_iff_pairwise.mp hchain

def CaseRun.misses (ranges : CodeRanges) (r : CaseRun) : Bool :=
  ranges.all fun s => Nat.blt (r.image + (r.last - r.first)) s.1 || Nat.blt s.2 r.image

/-- The code points that the run maps belong to the class: one interval holds all of them, or each
lies in one of its own. -/
def CaseRun.inside (ranges : CodeRanges) (r : CaseRun) : Bool :=
  (ranges.any fun s => Nat.ble s.1 r.first && Nat.ble r.last s.2) ||
    (List.range ((r.last - r.first) / r.step + 1)).all fun i =>
      ranges.any fun s => Nat.ble s.1 (r.first + r.step * i) && Nat.ble (r.first + r.step * i) s.2

theorem CaseRun.exists_of_inside {ranges : CodeRanges} {r : CaseRun} {n : Nat}
    (h : r.inside ranges = true) (hc : r.Covers n) : ∃ s ∈ ranges, s.1 ≤ n ∧ n ≤ s.2 := by
  obtain ⟨hlow, hhigh, hstep⟩ := hc
  rcases Bool.or_eq_true_iff.mp h with h | h
  · obtain ⟨s, hs, hbounds⟩ := List.any_eq_true.mp h
    rw [Bool.and_eq_true, Nat.ble_eq, Nat.ble_eq] at hbounds
    exact ⟨s, hs, Nat.le_trans hbounds.1 hlow, Nat.le_trans hhigh hbounds.2⟩
  · have hn : r.first + r.step * ((n - r.first) / r.step) = n := by
      rw [Nat.mul_div_cancel' (Nat.dvd_of_mod_eq_zero hstep)]
      omega
    have hmem : (n - r.first) / r.step ∈ List.range ((r.last - r.first) / r.step + 1) := by
      rw [List.mem_range, Nat.lt_succ_iff]
      exact Nat.div_le_div_right (Nat.sub_le_sub_right hhigh r.first)
    obtain ⟨s, hs, hbounds⟩ := List.any_eq_true.mp (List.all_eq_true.mp h _ hmem)
    rw [hn, Bool.and_eq_true, Nat.ble_eq, Nat.ble_eq] at hbounds
    exact ⟨s, hs, hbounds⟩

theorem CaseRun.not_of_misses {ranges : CodeRanges} {r : CaseRun} {n : Nat}
    (h : r.misses ranges = true) (hc : r.Covers n) :
    ranges.contains (r.image + (n - r.first)) = false := by
  rw [Bool.eq_false_iff]
  intro hin
  obtain ⟨s, hs, hlow, hhigh⟩ := CodeRanges.exists_of_contains hin
  have hout := List.all_eq_true.mp h s hs
  rw [Bool.or_eq_true, Nat.blt_eq, Nat.blt_eq] at hout
  have := hc.2.1
  omega

theorem inside_or_misses_wordRanges :
    (smallRuns.all fun r => r.inside wordRanges || r.misses wordRanges) = true := by
  decide +kernel

theorem isWordChar_lowerChar {c : Char} (h : isWordChar c = false) :
    isWordChar (lowerChar c) = false := by
  cases hi : CaseRun.image? smallRuns c.toNat with
  | none => simpa [lowerChar, CaseRun.map, hi] using h
  | some m =>
    have hc : lowerChar c = Char.ofNat m := by simp [lowerChar, CaseRun.map, hi]
    obtain ⟨r, hr, hcovers, rfl⟩ := CaseRun.exists_of_image? hi
    have hcheck := List.all_eq_true.mp inside_or_misses_wordRanges r hr
    rcases Bool.or_eq_true_iff.mp hcheck with hin | hm
    · obtain ⟨s, hs, hlow, hhigh⟩ := CaseRun.exists_of_inside hin hcovers
      have hword : isWordChar c = true :=
        CodeRanges.contains_of_mem pairwise_wordRanges hs hlow hhigh
      rw [h] at hword
      exact absurd hword (by decide)
    · rcases toNat_ofNat (r.image + (c.toNat - r.first)) with hn | hz
      · rw [isWordChar, hc, hn]
        exact CaseRun.not_of_misses hm hcovers
      · rw [hc, hz]
        decide

/-! ## The forms of capital sigmas -/

/-- For each capital sigma of a text, in order, whether it takes its final form. What stands in
front of the text is given backwards. -/
def sigmasFrom : (before : List Char) → List Char → List Bool
  | _, [] => []
  | before, c :: cs =>
    if c = 'Σ' then (casedAhead before && !casedAhead cs) :: sigmasFrom (c :: before) cs
    else sigmasFrom (c :: before) cs

def finalSigmas (s : String) : List Bool := sigmasFrom [] s.toList

/-- Lower case with the forms of the capital sigmas given in order. -/
def lowerBy : (forms : List Bool) → List Char → List Char
  | _, [] => []
  | forms, c :: cs =>
    if c = 'Σ' then (if forms.headD false then 'ς' else 'σ') :: lowerBy forms.tail cs
    else (if c = 'İ' then ['i', '\u0307'] else [lowerChar c]) ++ lowerBy forms cs

section LowerBy

variable {f g : List Bool} {a b cs gap before : List Char} {c : Char}

@[simp] theorem length_sigmasFrom : (sigmasFrom before cs).length = cs.count 'Σ' := by
  induction cs generalizing before with
  | nil => rfl
  | cons c cs ih =>
    rw [sigmasFrom, List.count_cons]
    split
    · next h => simp [h, ih]
    · next h => simp [h, ih]

/-- Lower-casing takes nothing but these forms from the context. -/
theorem lowerFrom_eq_lowerBy (before cs : List Char) :
    lowerFrom (casedAhead before) cs = lowerBy (sigmasFrom before cs) cs := by
  induction cs generalizing before with
  | nil => rfl
  | cons c cs ih =>
    have hbefore : (if isCaseIgnorable c then casedAhead before else isCased c) =
        casedAhead (c :: before) := rfl
    rw [lowerFrom, hbefore, ih, lowerOne, sigmasFrom, lowerBy]
    split
    · rfl
    · split <;> rfl

theorem lowerChars_eq_lowerBy : lowerChars cs = lowerBy (sigmasFrom [] cs) cs :=
  lowerFrom_eq_lowerBy [] cs

theorem lowerBy_append :
    lowerBy f (a ++ b) = lowerBy f a ++ lowerBy (f.drop (a.count 'Σ')) b := by
  induction a generalizing f with
  | nil => rfl
  | cons c a ih =>
    rw [List.cons_append, lowerBy, lowerBy, List.count_cons]
    split
    · next h => rw [ih, List.drop_tail]; simp [h]
    · next h => rw [ih]; simp [h]

theorem lowerBy_cons_of_not_isWordChar (h : isWordChar c = false) :
    lowerBy f (c :: cs) = lowerChar c :: lowerBy f cs := by
  have hsigma : c ≠ 'Σ' := by
    rintro rfl
    exact absurd h (by decide)
  have hdotted : c ≠ 'İ' := by
    rintro rfl
    exact absurd h (by decide)
  rw [lowerBy, if_neg hsigma, if_neg hdotted, List.singleton_append]

theorem lowerBy_gap_append (h : ∀ c ∈ gap, isWordChar c = false) :
    lowerBy f (gap ++ cs) = gap.map lowerChar ++ lowerBy f cs := by
  induction gap with
  | nil => rfl
  | cons c gap ih =>
    obtain ⟨hc, hgap⟩ := List.forall_mem_cons.mp h
    rw [List.cons_append, lowerBy_cons_of_not_isWordChar hc, ih hgap, List.map_cons,
      List.cons_append]

theorem lowerBy_gap (h : ∀ c ∈ gap, isWordChar c = false) : lowerBy f gap = gap.map lowerChar := by
  have happend : lowerBy f (gap ++ []) = gap.map lowerChar ++ lowerBy f [] := lowerBy_gap_append h
  rwa [List.append_nil, lowerBy, List.append_nil] at happend

theorem eq_of_filter_lowerBy (hf : f.length = cs.count 'Σ') (hg : g.length = cs.count 'Σ')
    (h : (lowerBy f cs).filter isWordChar = (lowerBy g cs).filter isWordChar) : f = g := by
  induction cs generalizing f g with
  | nil => rw [List.length_eq_zero_iff.mp hf, List.length_eq_zero_iff.mp hg]
  | cons c cs ih =>
    rw [lowerBy, lowerBy] at h
    by_cases hc : c = 'Σ'
    · subst hc
      rw [List.count_cons_self] at hf hg
      obtain ⟨x, f, rfl⟩ := List.exists_cons_of_length_eq_add_one hf
      obtain ⟨y, g, rfl⟩ := List.exists_cons_of_length_eq_add_one hg
      have hword : ∀ x : Bool, isWordChar (if x then 'ς' else 'σ') = true := by decide
      rw [if_pos rfl, if_pos rfl, List.headD_cons, List.headD_cons,
        List.filter_cons_of_pos (hword x), List.filter_cons_of_pos (hword y),
        List.cons.injEq] at h
      have hxy : x = y := by
        revert h
        cases x <;> cases y <;> simp
      have hfg : f = g := ih (by simpa using hf) (by simpa using hg) h.2
      rw [hxy, hfg]
    · rw [if_neg hc, if_neg hc, List.filter_append, List.filter_append] at h
      rw [List.count_cons_of_ne hc] at hf hg
      exact ih hf hg (List.append_cancel_left h)

theorem isWordChar_of_head?_lowerBy (h : ∀ c ∈ cs.head?, isWordChar c = false) :
    ∀ c ∈ (lowerBy f cs).head?, isWordChar c = false := by
  cases cs with
  | nil => simp [lowerBy]
  | cons c cs =>
    have hc : isWordChar c = false := h c rfl
    rw [lowerBy_cons_of_not_isWordChar hc]
    simpa using isWordChar_lowerChar hc

end LowerBy

/-! ## The two small sigmas -/

/-- Undoes the difference between the two small sigmas. -/
def levelSigma (c : Char) : Char := if c = 'ς' then 'σ' else c

section LevelSigma

variable {f g : List Bool} {cs : List Char}

theorem isWordChar_levelSigma (c : Char) : isWordChar (levelSigma c) = isWordChar c := by
  unfold levelSigma
  split
  · next h =>
    rw [h]
    decide
  · rfl

theorem map_levelSigma_lowerBy :
    (lowerBy f cs).map levelSigma = (lowerBy g cs).map levelSigma := by
  induction cs generalizing f g with
  | nil => rfl
  | cons c cs ih =>
    have hsigma : ∀ x : Bool, levelSigma (if x then 'ς' else 'σ') = 'σ' := by decide
    rw [lowerBy, lowerBy]
    split
    · rw [List.map_cons, List.map_cons, hsigma, hsigma, ih]
    · rw [List.map_append, List.map_append, ih]

theorem wordRuns_map {k : Char → Char} (h : ∀ c, isWordChar (k c) = isWordChar c) :
    wordRuns (cs.map k) = (wordRuns cs).map (List.map k) := by
  have hsplit : (cs.map k).splitOnP (fun c => !isWordChar c) =
      (cs.splitOnP fun c => !isWordChar c).map (List.map k) := by
    induction cs with
    | nil => simp
    | cons c cs ih =>
      obtain ⟨first, rest, hs⟩ := List.exists_cons_of_ne_nil
        (List.splitOnP_ne_nil (fun c => !isWordChar c) cs)
      rw [List.map_cons, List.splitOnP_cons_eq_if_modifyHead,
        List.splitOnP_cons_eq_if_modifyHead, h, ih, hs]
      split <;> simp
  rw [wordRuns, hsplit, List.filter_map, wordRuns]
  simp [Function.comp_def]

end LevelSigma

/-! ## Same words, other gaps -/

section Gaps

variable {f : List Bool} {a b gap trail : List Char} {ps : List Placed}

/-- Once the forms of the sigmas are given, the gaps do not matter. -/
theorem wordRuns_lowerBy_spell (ht : ∀ c ∈ trail, isWordChar c = false)
    (hp : ∀ p ∈ ps.tail, p.gap ≠ []) :
    wordRuns (lowerBy f (spell ps trail)) = wordRuns (lowerBy f (closed (ps.map Placed.word))) := by
  induction ps generalizing f with
  | nil =>
    have hmap : ∀ c ∈ trail.map lowerChar, isWordChar c = false :=
      List.forall_mem_map.mpr fun c hc => isWordChar_lowerChar (ht c hc)
    rw [spell_nil, lowerBy_gap ht, wordRuns_eq_nil hmap]
    rfl
  | cons p ps ih =>
    have hgaps : ∀ q ∈ ps, q.gap ≠ [] := hp
    have hgap : ∀ c ∈ p.gap.map lowerChar, isWordChar c = false :=
      List.forall_mem_map.mpr fun c hc => isWordChar_lowerChar (p.isWordChar_gap c hc)
    have hrest := isWordChar_of_head?_lowerBy (f := f.drop (p.word.count 'Σ'))
      (of_head?_spell ht (fun q _ => q.isWordChar_gap) hgaps)
    have hspace : isWordChar (lowerChar ' ') = false := isWordChar_lowerChar isWordChar_space
    rw [spell_cons, lowerBy_gap_append p.isWordChar_gap, wordRuns_gap_append hgap, lowerBy_append,
      wordRuns_append hrest, ih fun q hq => hgaps q (List.mem_of_mem_tail hq), List.map_cons,
      closed_cons, lowerBy_append, lowerBy_cons_of_not_isWordChar isWordChar_space,
      wordRuns_append_cons hspace]

theorem count_closed (ws : List (List Char)) :
    (closed ws).count 'Σ' = ws.flatten.count 'Σ' := by
  induction ws with
  | nil => rfl
  | cons w ws ih => simp [ih]

/-- A character that stands outside words and ends every search for a cased one. -/
structure Divides (c : Char) : Prop extends IsNeutral c where
  not_word : isWordChar c = false

theorem wordRuns_lowerChars_append (h : ∀ c ∈ b.head?, Divides c) :
    wordRuns (lowerChars (a ++ b)) = wordRuns (lowerChars a) ++ wordRuns (lowerChars b) := by
  cases b with
  | nil => simp [lowerChars, lowerFrom]
  | cons c b =>
    have hc : Divides c := h c rfl
    have hword : isWordChar (lowerChar c) = false := isWordChar_lowerChar hc.not_word
    have hcons := hc.toIsNeutral.lowerChars_append_cons (a := []) (b := b)
    rw [List.nil_append] at hcons
    rw [hc.toIsNeutral.lowerChars_append_cons, wordRuns_append_cons hword, hcons,
      wordRuns_append_cons hword]
    rfl

theorem wordRuns_lowerChars_gap_append (h : ∀ c ∈ gap, Divides c) :
    wordRuns (lowerChars (gap ++ b)) = wordRuns (lowerChars b) := by
  induction gap with
  | nil => rfl
  | cons c gap ih =>
    obtain ⟨hc, hgap⟩ := List.forall_mem_cons.mp h
    have hword : isWordChar (lowerChar c) = false := isWordChar_lowerChar hc.not_word
    rw [List.cons_append, ← List.nil_append (c :: (gap ++ b)),
      hc.toIsNeutral.lowerChars_append_cons, wordRuns_append_cons hword, ih hgap]
    rfl

theorem wordRuns_lowerChars_spell (ht : ∀ c ∈ trail, Divides c)
    (hg : ∀ p ∈ ps, ∀ c ∈ p.gap, Divides c) (hp : ∀ p ∈ ps.tail, p.gap ≠ []) :
    wordRuns (lowerChars (spell ps trail)) =
      (ps.map Placed.word).flatMap fun w => wordRuns (lowerChars w) := by
  induction ps with
  | nil =>
    have htrail := wordRuns_lowerChars_gap_append (b := []) ht
    rwa [List.append_nil] at htrail
  | cons p ps ih =>
    obtain ⟨hgap, hg⟩ := List.forall_mem_cons.mp hg
    have hgaps : ∀ q ∈ ps, q.gap ≠ [] := hp
    rw [spell_cons, wordRuns_lowerChars_gap_append hgap,
      wordRuns_lowerChars_append (of_head?_spell ht hg hgaps),
      ih hg fun q hq => hgaps q (List.mem_of_mem_tail hq)]
    rfl

end Gaps

namespace Layout

variable {l m : Layout}

theorem toList_text (l : Layout) : l.text.toList = l.chars := String.toList_ofList

/-- A normal form holds the words in lower case, with the forms of the capital sigmas that they
take in the text. -/
theorem tokens_normalize_text (l : Layout) : tokens (normalize l.text) =
    (wordRuns (lowerBy (finalSigmas l.text) (closed l.words))).map String.ofList := by
  rw [tokens_normalize, lowerChars_eq_lowerBy, finalSigmas, toList_text, chars,
    wordRuns_lowerBy_spell l.isWordChar_trail l.gap_ne_nil, words]

theorem length_finalSigmas (l : Layout) :
    (finalSigmas l.text).length = (closed l.words).count 'Σ' := by
  have hsigma : isWordChar 'Σ' = true := by decide
  rw [finalSigmas, length_sigmasFrom, toList_text, count_closed, ← l.filter_chars,
    List.count_filter hsigma]

/-- No gap holds a character with case or one that is ignored. -/
def Divided (l : Layout) : Prop :=
  (∀ p ∈ l.placed, ∀ c ∈ p.gap, IsNeutral c) ∧ ∀ c ∈ l.trail, IsNeutral c

theorem Divided.tokens_normalize (h : l.Divided) : tokens (normalize l.text) =
    (l.words.flatMap fun w => wordRuns (lowerChars w)).map String.ofList := by
  have ht : ∀ c ∈ l.trail, Divides c := fun c hc => ⟨h.2 c hc, l.isWordChar_trail c hc⟩
  have hg : ∀ p ∈ l.placed, ∀ c ∈ p.gap, Divides c := fun p hp c hc =>
    ⟨h.1 p hp c hc, p.isWordChar_gap c hc⟩
  rw [Text.tokens_normalize, toList_text, chars, wordRuns_lowerChars_spell ht hg l.gap_ne_nil,
    words]

/-- Texts that hold the same words have the same normal form exactly if their capital sigmas take
the same forms. Otherwise the normal forms differ in small sigmas and in nothing else. Without a
capital sigma the gaps do not matter at all, nor do they where no character in them has case or is
ignored by the search for one that has. -/
theorem normalize_eq_iff_finalSigmas_eq (h : l.words = m.words) :
    (normalize l.text = normalize m.text ↔ finalSigmas l.text = finalSigmas m.text) ∧
    (tokens (normalize l.text)).map (String.map levelSigma) =
      (tokens (normalize m.text)).map (String.map levelSigma) ∧
    ((∀ w ∈ l.words, 'Σ' ∉ w) → normalize l.text = normalize m.text) ∧
    (l.Divided → m.Divided → normalize l.text = normalize m.text) := by
  have hforms : normalize l.text = normalize m.text ↔ finalSigmas l.text = finalSigmas m.text := by
    rw [normalize_eq_iff_tokens_eq, l.tokens_normalize_text, m.tokens_normalize_text, ← h]
    constructor
    · intro he
      have hruns := List.map_injective_iff.mpr (fun _ _ => String.ofList_injective) he
      have hletters := congrArg List.flatten hruns
      rw [flatten_wordRuns, flatten_wordRuns] at hletters
      exact eq_of_filter_lowerBy l.length_finalSigmas (h ▸ m.length_finalSigmas) hletters
    · intro he
      rw [he]
  have hmap : ∀ ws : List (List Char), (ws.map String.ofList).map (String.map levelSigma) =
      (ws.map (List.map levelSigma)).map String.ofList := by
    intro ws
    have hword : ∀ w : List Char,
        String.map levelSigma (String.ofList w) = String.ofList (w.map levelSigma) :=
      fun w => String.toList_inj.mp (by simp)
    simp [List.map_map, Function.comp_def, hword]
  refine ⟨hforms, ?_, fun hw => hforms.mpr ?_, fun hl hm => ?_⟩
  · rw [l.tokens_normalize_text, m.tokens_normalize_text, ← h, hmap, hmap,
      ← wordRuns_map isWordChar_levelSigma, ← wordRuns_map isWordChar_levelSigma,
      map_levelSigma_lowerBy]
  · have hcount : (closed l.words).count 'Σ' = 0 := by
      rw [count_closed, List.count_eq_zero, List.mem_flatten]
      rintro ⟨w, hm, hs⟩
      exact hw w hm hs
    have hl := l.length_finalSigmas
    have hm := m.length_finalSigmas
    rw [← h, hcount] at hm
    rw [hcount] at hl
    rw [List.length_eq_zero_iff.mp hl, List.length_eq_zero_iff.mp hm]
  · rw [normalize_eq_iff_tokens_eq, hl.tokens_normalize, hm.tokens_normalize, h]

/-- Two words, the first of which ends in a capital sigma, and the gap between them. -/
def licence (gap : List Char) (hn : gap ≠ []) (hg : gap.any isWordChar = false) : Layout where
  placed :=
    [⟨[], "ΟΔΗΓΟΣ".toList, by simp, by decide, List.all_eq_true.mp (by decide +kernel)⟩,
      ⟨gap, ['Β'], by simpa using hg, by simp, List.all_eq_true.mp (by decide +kernel)⟩]
  trail := []
  isWordChar_trail := by simp
  gap_ne_nil := by simpa using hn

def spaced : Layout := licence [' '] (by decide) (by decide +kernel)

def dashed : Layout := licence " - ".toList (by decide) (by decide +kernel)

def dotted : Layout := licence ['.'] (by decide) (by decide +kernel)

theorem normalize_eq_iff_finalSigmas_eq_dashed :
    spaced.words = dashed.words ∧ finalSigmas spaced.text = finalSigmas dashed.text ∧
    normalize "ΟΔΗΓΟΣ Β" = normalize "ΟΔΗΓΟΣ - Β" := by
  have hw : spaced.words = dashed.words := rfl
  have hf : finalSigmas spaced.text = finalSigmas dashed.text := by decide +kernel
  exact ⟨hw, hf, (normalize_eq_iff_finalSigmas_eq hw).1.mpr hf⟩

/-- Punctuation alone can tell two spellings apart: a full stop is ignored, so the sigma in front of
it is not the last letter before a gap but one before a capital. -/
theorem full_stop_shows :
    dotted.words = spaced.words ∧ dotted.text = "ΟΔΗΓΟΣ.Β" ∧ spaced.text = "ΟΔΗΓΟΣ Β" ∧
    normalize "ΟΔΗΓΟΣ.Β" = "οδηγοσ β" ∧ normalize "ΟΔΗΓΟΣ Β" = "οδηγος β" := by
  refine ⟨rfl, rfl, rfl, ?_, ?_⟩ <;> decide +kernel

end Layout

end Shortlist.Text
