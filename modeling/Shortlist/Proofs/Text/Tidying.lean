import Mathlib.Data.List.Chain
import Mathlib.Data.List.TakeWhile
import Shortlist.Proofs.Text.Containment
import Shortlist.Proofs.Value.Coerce
import Shortlist.Text.Tidy

/-! # Tidying line by line

Tidying passes over a text twice: runs of spaces become one space, then runs of spaces and line
feeds become one line feed. Both passes together work on lines. Every line is squeezed, the lines
that hold nothing are left out, and the others are joined and trimmed.
-/

namespace Shortlist.Text

/-! ## Squeezed lines -/

/-- The parts between separators that hold anything. -/
def pieces (sep : Char) (cs : List Char) : List (List Char) :=
  (splitChars sep cs).filter (!·.isEmpty)

/-- One separator for every run of them, and none at the ends. -/
def squeeze (sep : Char) (cs : List Char) : List Char := [sep].intercalate (pieces sep cs)

def plainSpace (c : Char) : Char := if isLineSpace c then ' ' else c

def filledLines (lines : List (List Char)) : List (List Char) :=
  (lines.map (squeeze ' ')).filter (!·.isEmpty)

/-- The squeezed lines of a text with one line feed between them, trimmed. -/
def tidyLinewise (cs : List Char) : List Char :=
  stripChars (['\n'].intercalate (filledLines (splitChars '\n' (cs.map plainSpace))))

def ended (lines : List (List Char)) : List Char := lines.flatMap (· ++ ['\n'])

section Squeeze

variable {sep c : Char} {cs w : List Char} {ws : List (List Char)}

theorem splitChars_cons_self : splitChars sep (sep :: cs) = [] :: splitChars sep cs := by
  simp [splitChars]

theorem splitChars_cons_of_ne (hc : c ≠ sep) (hs : splitChars sep cs = w :: ws) :
    splitChars sep (c :: cs) = (c :: w) :: ws := by
  simp [splitChars, hc, hs]

theorem intercalate_space_cons (w : List Char) (ws : List (List Char)) :
    [' '].intercalate (w :: ws) = w ++ opened ws := by
  induction ws generalizing w with
  | nil => simp
  | cons v ws ih => rw [List.intercalate_cons_cons, ih]; simp

theorem squeeze_nil : squeeze sep [] = [] := rfl

theorem squeeze_cons_self : squeeze sep (sep :: cs) = squeeze sep cs := by
  simp [squeeze, pieces, splitChars_cons_self]

theorem squeeze_space_cons_of_ne (hc : c ≠ ' ') (hs : splitChars ' ' cs = w :: ws) :
    squeeze ' ' (c :: cs) = c :: w ++ opened (ws.filter (!·.isEmpty)) := by
  rw [squeeze, pieces, splitChars_cons_of_ne hc hs, List.filter_cons_of_pos (by simp),
    intercalate_space_cons]

theorem opened_pieces :
    opened (pieces ' ' cs) = if squeeze ' ' cs = [] then [] else ' ' :: squeeze ' ' cs := by
  cases hp : pieces ' ' cs with
  | nil => simp [squeeze, hp]
  | cons w ws =>
    have hw : w ≠ [] := by
      have hm : w ∈ pieces ' ' cs := hp ▸ List.mem_cons_self
      simpa using (List.mem_filter.mp hm).2
    rw [squeeze, hp, intercalate_space_cons]
    simp [hw]

theorem ended_eq {ls : List (List Char)} (hn : ls ≠ []) :
    ended ls = ['\n'].intercalate ls ++ ['\n'] := by
  induction ls with
  | nil => exact (hn rfl).elim
  | cons l ls ih =>
    cases ls with
    | nil => simp [ended]
    | cons k ls =>
      rw [List.intercalate_cons_cons, ended, List.flatMap_cons, ← ended, ih (by simp)]
      simp

end Squeeze

/-! ## Both passes -/

/-- What the two passes write in front of a line feed: where a line begins, inside a word, and
behind spaces in the middle of a line. `line` is what is left of the line, `word` what is left of
the word. -/
structure Passes (cs line word : List Char) (lines words : List (List Char)) : Prop where
  lines_eq : splitChars '\n' (cs.map plainSpace) = line :: lines
  words_eq : splitChars ' ' line = word :: words
  lineBegins : ∀ inRun, oneBreak true (oneSpace inRun (cs ++ ['\n'])) =
    ended (filledLines (line :: lines))
  inWord : oneBreak false (oneSpace false (cs ++ ['\n'])) =
    word ++ opened (words.filter (!·.isEmpty)) ++ '\n' :: ended (filledLines lines)
  behindSpace : oneBreak false (oneSpace true (cs ++ ['\n'])) =
    squeeze ' ' line ++ '\n' :: ended (filledLines lines)
  lineEnds : (oneSpace true (cs ++ ['\n'])).head? = some '\n' ↔ squeeze ' ' line = []

namespace Passes

variable {cs line word : List Char} {lines words : List (List Char)} {c : Char}

theorem filledLines_cons : filledLines (line :: lines) =
    if squeeze ' ' line = [] then filledLines lines else squeeze ' ' line :: filledLines lines := by
  rw [filledLines, List.map_cons, List.filter_cons]
  by_cases h : squeeze ' ' line = [] <;> simp [h, filledLines]

theorem nil : Passes [] [] [] [] [] where
  lines_eq := rfl
  words_eq := rfl
  lineBegins inRun := by cases inRun <;> rfl
  inWord := rfl
  behindSpace := rfl
  lineEnds := by simp [oneSpace, squeeze_nil, isLineSpace]

theorem break_cons (h : Passes cs line word lines words) :
    Passes ('\n' :: cs) [] [] (line :: lines) [] := by
  have hbreak : isLineSpace '\n' = false := by decide
  have hskip : filledLines ([] :: line :: lines) = filledLines (line :: lines) := by
    rw [filledLines_cons, if_pos squeeze_nil]
  constructor
  · rw [List.map_cons, plainSpace, hbreak, ← h.lines_eq]
    exact splitChars_cons_self
  · rfl
  · intro inRun
    simp [oneSpace, oneBreak, hbreak, h.lineBegins, hskip]
  · simp [oneSpace, oneBreak, hbreak, h.lineBegins]
  · simp [oneSpace, oneBreak, hbreak, h.lineBegins, squeeze_nil]
  · simp [oneSpace, hbreak, squeeze_nil]

theorem space_cons (h : Passes cs line word lines words) (hc : isLineSpace c = true) :
    Passes (c :: cs) (' ' :: line) [] lines (word :: words) := by
  have hrun : oneSpace true (c :: cs ++ ['\n']) = oneSpace true (cs ++ ['\n']) := by
    simp [oneSpace, hc]
  have hfirst : oneSpace false (c :: cs ++ ['\n']) = ' ' :: oneSpace true (cs ++ ['\n']) := by
    simp [oneSpace, hc]
  constructor
  · rw [List.map_cons, plainSpace, if_pos hc]
    exact splitChars_cons_of_ne (by decide) h.lines_eq
  · rw [splitChars_cons_self, h.words_eq]
  · intro inRun
    have hlines : filledLines ((' ' :: line) :: lines) = filledLines (line :: lines) := by
      rw [filledLines_cons, filledLines_cons, squeeze_cons_self]
    cases inRun with
    | false =>
      rw [hfirst, hlines]
      simp [oneBreak, h.lineBegins]
    | true => rw [hrun, h.lineBegins, hlines]
  · have hopened : opened ((word :: words).filter (!·.isEmpty)) = opened (pieces ' ' line) := by
      rw [pieces, h.words_eq]
    rw [hfirst, hopened, opened_pieces]
    -- The space is written unless the line holds nothing more.
    by_cases hs : squeeze ' ' line = []
    · simp [oneBreak, h.lineEnds.mpr hs, h.behindSpace, hs]
    · have hhead : ¬ (oneSpace true (cs ++ ['\n'])).head? = some '\n' := fun he =>
        hs (h.lineEnds.mp he)
      simp [oneBreak, hhead, h.behindSpace, hs]
  · rw [hrun, h.behindSpace, squeeze_cons_self]
  · rw [hrun, h.lineEnds, squeeze_cons_self]

theorem char_cons (h : Passes cs line word lines words) (hc : isLineSpace c = false)
    (hb : c ≠ '\n') : Passes (c :: cs) (c :: line) (c :: word) lines words := by
  have hspace : c ≠ ' ' := by
    rintro rfl
    exact absurd hc (by decide)
  have hsqueeze := squeeze_space_cons_of_ne hspace h.words_eq
  constructor
  · rw [List.map_cons, plainSpace, hc]
    exact splitChars_cons_of_ne hb h.lines_eq
  · exact splitChars_cons_of_ne hspace h.words_eq
  · intro inRun
    rw [filledLines_cons, hsqueeze]
    simp [oneSpace, oneBreak, hc, hb, hspace, h.inWord, ended]
  · simp [oneSpace, oneBreak, hc, hb, hspace, h.inWord]
  · rw [hsqueeze]
    simp [oneSpace, oneBreak, hc, hb, hspace, h.inWord]
  · rw [hsqueeze]
    simp [oneSpace, hc, hb]

end Passes

theorem exists_passes (cs : List Char) :
    ∃ line word lines words, Passes cs line word lines words := by
  induction cs with
  | nil => exact ⟨_, _, _, _, .nil⟩
  | cons c cs ih =>
    obtain ⟨line, word, lines, words, h⟩ := ih
    by_cases hb : c = '\n'
    · subst hb
      exact ⟨_, _, _, _, h.break_cons⟩
    · cases hc : isLineSpace c with
      | true => exact ⟨_, _, _, _, h.space_cons hc⟩
      | false => exact ⟨_, _, _, _, h.char_cons hc hb⟩

/-! ## The ends -/

section Ends

variable {cs lead trail : List Char} {c : Char}

theorem stripChars_append_blank (h : ∀ c ∈ trail, isBlank c = true) :
    stripChars (cs ++ trail) = stripChars cs := by
  have hdrop (ds : List Char) : dropEndWhile isBlank (ds ++ trail) = dropEndWhile isBlank ds := by
    rw [dropEndWhile, List.reverse_append, List.dropWhile_append_of_pos (by simpa using h),
      dropEndWhile]
  rw [stripChars, List.dropWhile_append]
  split
  · next hcs =>
    have htrail : trail.dropWhile isBlank = [] := List.dropWhile_eq_nil_iff.mpr h
    rw [htrail, stripChars, List.isEmpty_iff.mp hcs]
  · rw [hdrop, stripChars]

theorem stripChars_blank_append (h : ∀ c ∈ lead, isBlank c = true) :
    stripChars (lead ++ cs) = stripChars cs := by
  rw [stripChars, List.dropWhile_append_of_pos h, stripChars]

/-- The second pass writes the same where a line begins as inside one, but for white space. -/
theorem exists_oneBreak_false (cs : List Char) :
    ∃ lead, (∀ c ∈ lead, isBlank c = true) ∧ oneBreak false cs = lead ++ oneBreak true cs := by
  induction cs with
  | nil => exact ⟨[], by simp, rfl⟩
  | cons c cs ih =>
    obtain ⟨lead, hlead, ih⟩ := ih
    by_cases hb : c = '\n'
    · subst hb
      exact ⟨['\n'], List.all_eq_true.mp rfl, by simp [oneBreak]⟩
    by_cases hs : c = ' '
    · subst hs
      by_cases hhead : cs.head? = some '\n'
      · exact ⟨lead, hlead, by simp [oneBreak, hhead, ih]⟩
      · refine ⟨' ' :: lead, List.forall_mem_cons.mpr ⟨by decide, hlead⟩, ?_⟩
        simp [oneBreak, hhead, ih]
    · exact ⟨[], by simp, by simp [oneBreak, hb, hs]⟩

theorem exists_oneBreak_concat (cs : List Char) (afterBreak : Bool) :
    ∃ front trail trail', (∀ c ∈ trail, isBlank c = true) ∧ (∀ c ∈ trail', isBlank c = true) ∧
      oneBreak afterBreak cs = front ++ trail ∧
      oneBreak afterBreak (cs ++ ['\n']) = front ++ trail' := by
  induction cs generalizing afterBreak with
  | nil =>
    refine ⟨[], [], oneBreak afterBreak ['\n'], by simp, ?_, rfl, rfl⟩
    cases afterBreak <;> exact List.all_eq_true.mp rfl
  | cons c cs ih =>
    by_cases hs : c = ' ' ∧ cs = []
    · obtain ⟨rfl, rfl⟩ := hs
      refine ⟨[], oneBreak afterBreak [' '], oneBreak afterBreak [' ', '\n'], ?_, ?_, rfl, rfl⟩ <;>
        cases afterBreak <;> exact List.all_eq_true.mp rfl
    have hhead : c = ' ' → (cs ++ ['\n']).head? = cs.head? := by
      intro hc
      cases cs with
      | nil => exact (hs ⟨hc, rfl⟩).elim
      | cons d cs => rfl
    rw [List.cons_append, oneBreak, oneBreak]
    split
    · split
      · exact ih true
      · obtain ⟨front, trail, trail', ht, ht', h, h'⟩ := ih true
        exact ⟨'\n' :: front, trail, trail', ht, ht', by rw [h]; rfl, by rw [h']; rfl⟩
    · by_cases hc : c = ' '
      · rw [hhead hc]
        split
        · exact ih afterBreak
        · obtain ⟨front, trail, trail', ht, ht', h, h'⟩ := ih false
          exact ⟨c :: front, trail, trail', ht, ht', by rw [h]; rfl, by rw [h']; rfl⟩
      · obtain ⟨front, trail, trail', ht, ht', h, h'⟩ := ih false
        exact ⟨c :: front, trail, trail', ht, ht', by simp [hc, h], by simp [hc, h']⟩

theorem oneSpace_concat_break (cs : List Char) (inRun : Bool) :
    oneSpace inRun (cs ++ ['\n']) = oneSpace inRun cs ++ ['\n'] := by
  induction cs generalizing inRun with
  | nil => cases inRun <;> rfl
  | cons c cs ih =>
    rw [List.cons_append, oneSpace, oneSpace]
    split
    · split <;> simp [ih]
    · simp [ih]

/-- Tidying works line by line. -/
theorem tidyChars_eq (cs : List Char) : tidyChars cs = tidyLinewise cs := by
  obtain ⟨line, word, lines, words, h⟩ := exists_passes cs
  obtain ⟨front, trail, trail', ht, ht', hfront, hfront'⟩ :=
    exists_oneBreak_concat (oneSpace false cs) false
  obtain ⟨lead, hlead, hbreak⟩ := exists_oneBreak_false (oneSpace false (cs ++ ['\n']))
  calc tidyChars cs = stripChars front := by
        rw [tidyChars, hfront, stripChars_append_blank ht]
    _ = stripChars (oneBreak false (oneSpace false (cs ++ ['\n']))) := by
        rw [oneSpace_concat_break, hfront', stripChars_append_blank ht']
    _ = stripChars (ended (filledLines (line :: lines))) := by
        rw [hbreak, stripChars_blank_append hlead, h.lineBegins]
    _ = tidyLinewise cs := by
        rw [tidyLinewise, h.lines_eq]
        by_cases hn : filledLines (line :: lines) = []
        · rw [hn]
          rfl
        · rw [ended_eq hn, stripChars_append_blank (List.all_eq_true.mp rfl)]

end Ends

/-! ## Tidy texts -/

def isGap (c : Char) : Bool := c = ' ' || c = '\n'

/-- No white space at the ends, no other line spaces than spaces, and no gaps side by side. -/
structure IsTidy (cs : List Char) : Prop where
  bare : Bare cs
  eq_space : ∀ c ∈ cs, isLineSpace c = true → c = ' '
  apart : cs.IsChain fun c d => ¬ (isGap c = true ∧ isGap d = true)

section Tidy

variable {cs : List Char} {c : Char}

theorem isBlank_of_isLineSpace (h : isLineSpace c = true) : isBlank c = true := by
  simp only [isLineSpace, Bool.or_eq_true, decide_eq_true_eq] at h
  rcases h with ((((rfl | rfl) | rfl) | rfl) | rfl) | rfl <;> decide

theorem isGap_eq_false (hs : c ≠ ' ') (hb : c ≠ '\n') : isGap c = false := by
  simp [isGap, hs, hb]

theorem oneSpace_apart (cs : List Char) (inRun : Bool) :
    (inRun = true → (oneSpace inRun cs).head? ≠ some ' ') ∧
      (oneSpace inRun cs).IsChain fun c d => ¬ (c = ' ' ∧ d = ' ') := by
  induction cs generalizing inRun with
  | nil => simp [oneSpace]
  | cons c cs ih =>
    rw [oneSpace]
    split
    · split
      · next h => exact h ▸ ih true
      · next h =>
        obtain ⟨hhead, hchain⟩ := ih true
        refine ⟨fun he => (h he).elim, List.isChain_cons.mpr ⟨?_, hchain⟩⟩
        rintro d hd ⟨-, rfl⟩
        exact hhead rfl hd
    · next hc =>
      have hne : c ≠ ' ' := by
        rintro rfl
        exact hc (by decide)
      refine ⟨fun _ => by simpa using hne, List.isChain_cons.mpr ⟨?_, (ih false).2⟩⟩
      exact fun d _ h => hne h.1

theorem oneBreak_apart (h : cs.IsChain fun c d => ¬ (c = ' ' ∧ d = ' ')) (afterBreak : Bool) :
    (afterBreak = true → ∀ d ∈ (oneBreak afterBreak cs).head?, isGap d = false) ∧
      (oneBreak afterBreak cs).IsChain fun c d => ¬ (isGap c = true ∧ isGap d = true) := by
  induction cs generalizing afterBreak with
  | nil => simp [oneBreak]
  | cons c cs ih =>
    obtain ⟨hnext, h⟩ := List.isChain_cons.mp h
    have ih := ih h
    rw [oneBreak]
    split
    · split
      · next hb => exact hb ▸ ih true
      · next hb =>
        refine ⟨fun he => (hb he).elim, List.isChain_cons.mpr ⟨fun d hd hg => ?_, (ih true).2⟩⟩
        exact absurd hg.2 (by simp [(ih true).1 rfl d hd])
    · next hbreak =>
      split
      · exact ih afterBreak
      · next hkeep =>
        by_cases hs : c = ' '
        · -- A space that is kept stands in front of a character that is written as it is.
          subst hs
          simp only [decide_true, Bool.true_and, Bool.or_eq_true, decide_eq_true_eq,
            not_or] at hkeep
          refine ⟨fun he => (hkeep.1 he).elim,
            List.isChain_cons.mpr ⟨fun d hd hg => ?_, (ih false).2⟩⟩
          cases cs with
          | nil => simp [oneBreak] at hd
          | cons e cs =>
            have hspace : e ≠ ' ' := fun he => hnext e rfl ⟨rfl, he⟩
            have hb : e ≠ '\n' := fun he => hkeep.2 (by rw [he]; rfl)
            have hde : e = d := by simpa [oneBreak, hspace, hb] using hd
            subst hde
            exact absurd hg.2 (by simp [isGap_eq_false hspace hb])
        · have hg := isGap_eq_false hs hbreak
          refine ⟨fun _ => by simpa using hg, List.isChain_cons.mpr ⟨?_, (ih false).2⟩⟩
          exact fun d _ h => by simp [hg] at h

theorem eq_space_of_mem_oneSpace {inRun : Bool} (h : c ∈ oneSpace inRun cs)
    (hc : isLineSpace c = true) : c = ' ' := by
  induction cs generalizing inRun with
  | nil => simp [oneSpace] at h
  | cons d cs ih =>
    rw [oneSpace] at h
    split at h
    · split at h
      · exact ih h
      · exact (List.mem_cons.mp h).elim id ih
    · next hd =>
      rcases List.mem_cons.mp h with rfl | h
      · exact (hd hc).elim
      · exact ih h

theorem mem_of_mem_oneBreak {afterBreak : Bool} (h : c ∈ oneBreak afterBreak cs) : c ∈ cs := by
  induction cs generalizing afterBreak with
  | nil => simp [oneBreak] at h
  | cons d cs ih =>
    rw [oneBreak] at h
    split at h
    · next hd =>
      split at h
      · exact List.mem_cons_of_mem _ (ih h)
      · rcases List.mem_cons.mp h with rfl | h
        · exact hd ▸ List.mem_cons_self
        · exact List.mem_cons_of_mem _ (ih h)
    · split at h
      · exact List.mem_cons_of_mem _ (ih h)
      · exact (List.mem_cons.mp h).elim (fun he => he ▸ List.mem_cons_self)
          fun h => List.mem_cons_of_mem _ (ih h)

theorem stripChars_isInfix (cs : List Char) : stripChars cs <:+: cs := by
  have hp : stripChars cs <+: cs.dropWhile isBlank := by
    rw [stripChars, dropEndWhile, ← List.reverse_suffix, List.reverse_reverse]
    exact List.dropWhile_suffix _
  exact hp.isInfix.trans (List.dropWhile_suffix _).isInfix

theorem isTidy_tidyChars (cs : List Char) : IsTidy (tidyChars cs) where
  bare := bare_stripChars _
  eq_space c hc := by
    have hm := (stripChars_isInfix _).subset hc
    exact eq_space_of_mem_oneSpace (mem_of_mem_oneBreak hm)
  apart := List.IsChain.infix (oneBreak_apart (oneSpace_apart cs false).2 false).2
    (stripChars_isInfix _)

theorem IsTidy.not_infix (h : IsTidy cs) {d : Char} (hc : isGap c = true) (hd : isGap d = true) :
    ¬ [c, d] <:+: cs := by
  rintro ⟨as, bs, rfl⟩
  have hpairs := List.isChain_iff_forall_rel_of_append_cons_cons.mp h.apart
  exact hpairs (List.append_assoc as [c, d] bs) ⟨hc, hd⟩

/-! ### Tidying again -/

theorem oneSpace_eq_self (h : ∀ c ∈ cs, isLineSpace c = true → c = ' ')
    (hchain : cs.IsChain fun c d => ¬ (isGap c = true ∧ isGap d = true)) {inRun : Bool}
    (hhead : inRun = true → cs.head? ≠ some ' ') : oneSpace inRun cs = cs := by
  induction cs generalizing inRun with
  | nil => rfl
  | cons c cs ih =>
    obtain ⟨hc, hcs⟩ := List.forall_mem_cons.mp h
    obtain ⟨hnext, hrest⟩ := List.isChain_cons.mp hchain
    rw [oneSpace]
    split
    · next hspace =>
      obtain rfl := hc hspace
      have hrun : inRun ≠ true := fun he => hhead he rfl
      rw [if_neg hrun, ih hcs hrest fun _ he => hnext ' ' he (by decide)]
    · rw [ih hcs hrest (by simp)]

theorem oneBreak_eq_self (hchain : cs.IsChain fun c d => ¬ (isGap c = true ∧ isGap d = true))
    {afterBreak : Bool} (hhead : afterBreak = true → ∀ c ∈ cs.head?, isGap c = false) :
    oneBreak afterBreak cs = cs := by
  induction cs generalizing afterBreak with
  | nil => rfl
  | cons c cs ih =>
    obtain ⟨hnext, hrest⟩ := List.isChain_cons.mp hchain
    have hgap : isGap c = true → ¬ afterBreak = true := fun hg he => by
      simp [hhead he c rfl] at hg
    rw [oneBreak]
    split
    · next hb =>
      subst hb
      rw [if_neg (hgap (by decide)), ih hrest fun _ d hd => ?_]
      exact Bool.eq_false_iff.mpr fun hg => hnext d hd ⟨by decide, hg⟩
    · split
      · next hskip =>
        simp only [Bool.and_eq_true, decide_eq_true_eq, Bool.or_eq_true] at hskip
        obtain ⟨rfl, hafter | hbreak⟩ := hskip
        · exact (hgap (by decide) hafter).elim
        · exact (hnext '\n' hbreak (by decide)).elim
      · rw [ih hrest (by simp)]

theorem IsTidy.tidyChars_eq (h : IsTidy cs) : tidyChars cs = cs := by
  rw [tidyChars, oneSpace_eq_self h.eq_space h.apart (by simp),
    oneBreak_eq_self h.apart (by simp), h.bare.stripChars_eq]

/-! ### What is kept -/

theorem filter_dropWhile_isBlank (cs : List Char) :
    (cs.dropWhile isBlank).filter (!isBlank ·) = cs.filter (!isBlank ·) := by
  induction cs with
  | nil => rfl
  | cons c cs ih =>
    rw [List.dropWhile_cons]
    split
    · next hc => rw [ih, List.filter_cons_of_neg (by simp [hc])]
    · rfl

theorem filter_stripChars (cs : List Char) :
    (stripChars cs).filter (!isBlank ·) = cs.filter (!isBlank ·) := by
  rw [stripChars, dropEndWhile, List.filter_reverse, filter_dropWhile_isBlank, List.filter_reverse,
    List.reverse_reverse, filter_dropWhile_isBlank]

theorem filter_oneSpace (cs : List Char) (inRun : Bool) :
    (oneSpace inRun cs).filter (!isBlank ·) = cs.filter (!isBlank ·) := by
  induction cs generalizing inRun with
  | nil => rfl
  | cons c cs ih =>
    rw [oneSpace]
    split
    · next hc =>
      have hblank : (c :: cs).filter (!isBlank ·) = cs.filter (!isBlank ·) :=
        List.filter_cons_of_neg (by simp [isBlank_of_isLineSpace hc])
      rw [hblank]
      split
      · exact ih true
      · rw [List.filter_cons_of_neg (by decide), ih]
    · rw [List.filter_cons, List.filter_cons, ih]

theorem filter_oneBreak (cs : List Char) (afterBreak : Bool) :
    (oneBreak afterBreak cs).filter (!isBlank ·) = cs.filter (!isBlank ·) := by
  induction cs generalizing afterBreak with
  | nil => rfl
  | cons c cs ih =>
    rw [oneBreak]
    split
    · next hb =>
      have hblank : (c :: cs).filter (!isBlank ·) = cs.filter (!isBlank ·) :=
        List.filter_cons_of_neg (by rw [hb]; decide)
      rw [hblank]
      split
      · exact ih true
      · rw [List.filter_cons_of_neg (by decide), ih]
    · split
      · next hskip =>
        simp only [Bool.and_eq_true, decide_eq_true_eq] at hskip
        rw [ih, List.filter_cons_of_neg (by rw [hskip.1]; decide)]
      · rw [List.filter_cons, List.filter_cons, ih]

theorem filter_tidyChars (cs : List Char) :
    (tidyChars cs).filter (!isBlank ·) = cs.filter (!isBlank ·) := by
  rw [tidyChars, filter_stripChars, filter_oneBreak, filter_oneSpace]

end Tidy

theorem toList_tidy (s : String) : (tidy s).toList = tidyChars s.toList := String.toList_ofList

/-- Tidying squeezes the lines of a text, leaves out those that hold nothing and trims the rest. A
tidy text has no line spaces but single spaces, none of them beside a line feed, no blank lines and
no white space at its ends. All that is not white space is kept, and tidying again changes
nothing. -/
theorem tidy_by_lines (s : String) :
    tidy s = String.ofList (tidyLinewise s.toList) ∧
    (∀ c ∈ ['\u00a0', '\t', '\r', '\x0c', '\x0b'], c ∉ (tidy s).toList) ∧
    (∀ c ∈ [' ', '\n'], ∀ d ∈ [' ', '\n'], ¬ [c, d] <:+: (tidy s).toList) ∧
    Trimmed (tidy s) ∧
    (tidy s).toList.filter (!isBlank ·) = s.toList.filter (!isBlank ·) ∧
    tidy (tidy s) = tidy s := by
  have htidy : IsTidy (tidy s).toList := toList_tidy s ▸ isTidy_tidyChars s.toList
  have hgap : ∀ c ∈ [' ', '\n'], isGap c = true := List.all_eq_true.mp rfl
  refine ⟨congrArg String.ofList (tidyChars_eq s.toList), fun c hc hm => ?_, fun c hc d hd => ?_,
    trimmed_iff.mpr htidy.bare, ?_, ?_⟩
  · have hline : ∀ c ∈ ['\u00a0', '\t', '\r', '\x0c', '\x0b'],
        isLineSpace c = true ∧ c ≠ ' ' := by
      rw [List.forall_mem_cons, List.forall_mem_cons, List.forall_mem_cons, List.forall_mem_cons,
        List.forall_mem_singleton]
      decide
    exact (hline c hc).2 (htidy.eq_space c hm (hline c hc).1)
  · exact htidy.not_infix (hgap c hc) (hgap d hd)
  · rw [toList_tidy, filter_tidyChars]
  · rw [tidy, htidy.tidyChars_eq, String.ofList_toList]

theorem tidy_by_lines_resume :
    '\t' ∉ (tidy "\u00a0Ann \t Lee\r\n \t\r\n\n  Go\x0c").toList ∧
    ¬ [' ', '\n'] <:+: (tidy "\u00a0Ann \t Lee\r\n \t\r\n\n  Go\x0c").toList ∧
    tidy "\u00a0Ann \t Lee\r\n \t\r\n\n  Go\x0c" = "Ann Lee\nGo" := by
  obtain ⟨_, hline, hgap, _⟩ := tidy_by_lines "\u00a0Ann \t Lee\r\n \t\r\n\n  Go\x0c"
  exact ⟨hline '\t' (by decide), hgap ' ' (by decide) '\n' (by decide), by decide⟩

end Shortlist.Text
