import Shortlist.Proofs.Text.Lowercase
import Shortlist.Text.Words

/-! # Words of a normal form

A normal form is the list of maximal runs of word characters of the lower-cased text, one space
between them. Its tokens are these runs, and every list of such words is the token list of the text
that joins them.
-/

namespace Shortlist.Text

theorem CodeRanges.exists_of_contains {ranges : CodeRanges} {n : Nat}
    (h : ranges.contains n = true) : ∃ r ∈ ranges, r.1 ≤ n ∧ n ≤ r.2 := by
  induction ranges with
  | nil => simp [CodeRanges.contains] at h
  | cons r rest ih =>
    rw [CodeRanges.contains] at h
    split at h
    · simp at h
    · next hlow =>
      rw [Bool.or_eq_true, decide_eq_true_eq] at h
      rcases h with hhigh | h
      · exact ⟨r, List.mem_cons_self, Nat.le_of_not_lt hlow, hhigh⟩
      · obtain ⟨s, hs, hin⟩ := ih h
        exact ⟨s, List.mem_cons_of_mem _ hs, hin⟩

theorem isWordChar_of_isBlank {c : Char} (h : isBlank c = true) : isWordChar c = false := by
  have hout : ∀ r ∈ blankRanges, ∀ d ∈ List.range (r.2 - r.1 + 1),
      wordRanges.contains (r.1 + d) = false := by decide +kernel
  obtain ⟨r, hr, hlow, hhigh⟩ := CodeRanges.exists_of_contains h
  have hn := hout r hr (c.toNat - r.1) (by rw [List.mem_range]; omega)
  rwa [Nat.add_sub_cancel' hlow] at hn

theorem isBlank_eq_false {c : Char} (h : isWordChar c = true) : isBlank c = false := by
  cases hb : isBlank c with
  | false => rfl
  | true => exact absurd (isWordChar_of_isBlank hb) (by simp [h])

theorem isWordChar_space : isWordChar ' ' = false := isWordChar_of_isBlank (by decide)

theorem isSmall_of_isBlank {c : Char} (h : isBlank c = true) : IsSmall c where
  fixed := by
    have hout : ∀ r ∈ blankRanges, ∀ d ∈ List.range (r.2 - r.1 + 1),
        CaseRun.image? smallRuns (r.1 + d) = none := by decide
    obtain ⟨r, hr, hlow, hhigh⟩ := CodeRanges.exists_of_contains h
    have hn := hout r hr (c.toNat - r.1) (by rw [List.mem_range]; omega)
    rw [Nat.add_sub_cancel' hlow] at hn
    simp [lowerChar, CaseRun.map, hn]
  ne_sigma := by
    rintro rfl
    exact absurd h (by decide)
  ne_dotted := by
    rintro rfl
    exact absurd h (by decide)

theorem ne_space {c : Char} (h : isWordChar c = true) : c ≠ ' ' := by
  rintro rfl
  exact absurd h (by simp [isWordChar_space])

/-! ## Trimming -/

section Strip

variable {cs : List Char} {c : Char}

theorem stripChars_space_cons : stripChars (' ' :: cs) = stripChars cs := by
  simp [stripChars, show isBlank ' ' = true by decide]

theorem dropEndWhile_concat {p : Char → Bool} :
    dropEndWhile p (cs ++ [c]) = if p c then dropEndWhile p cs else cs ++ [c] := by
  unfold dropEndWhile
  rw [List.reverse_concat, List.dropWhile_cons]
  split <;> simp

theorem dropWhile_append_cons {p : Char → Bool} (hc : p c = false) (front : List Char) :
    (front ++ c :: cs).dropWhile p = front.dropWhile p ++ c :: cs := by
  have hstop : (c :: cs).dropWhile p = c :: cs := List.dropWhile_cons_of_neg (by simp [hc])
  rw [List.dropWhile_append, hstop]
  split
  · next h => rw [List.isEmpty_iff.mp h, List.nil_append]
  · rfl

theorem dropEndWhile_append_cons {p : Char → Bool} (hc : p c = false) (back : List Char) :
    dropEndWhile p (cs ++ c :: back) = cs ++ c :: dropEndWhile p back := by
  unfold dropEndWhile
  rw [List.reverse_append, List.reverse_cons, List.append_assoc, List.singleton_append,
    dropWhile_append_cons hc, List.reverse_append, List.reverse_cons, List.reverse_reverse,
    List.append_assoc, List.singleton_append]

theorem stripChars_concat_space : stripChars (cs ++ [' ']) = stripChars cs := by
  unfold stripChars
  rw [List.dropWhile_append]
  split
  · next h =>
    rw [List.isEmpty_iff.mp h]
    decide
  · rw [dropEndWhile_concat, if_pos (by decide)]

theorem stripChars_eq_self (hh : ∀ c, cs.head? = some c → isBlank c = false)
    (hl : ∀ c, cs.getLast? = some c → isBlank c = false) : stripChars cs = cs := by
  have hd : cs.dropWhile isBlank = cs := by
    cases cs with
    | nil => rfl
    | cons c cs => rw [List.dropWhile_cons, hh c rfl]; rfl
  rw [stripChars, hd]
  cases hc : cs.getLast? with
  | none => rw [List.getLast?_eq_none_iff.mp hc]; rfl
  | some c =>
    obtain ⟨front, rfl⟩ := List.getLast?_eq_some_iff.mp hc
    rw [dropEndWhile_concat, hl c hc]
    rfl

end Strip

/-! ## Runs of word characters -/

def wordRuns (cs : List Char) : List (List Char) :=
  (cs.splitOnP fun c => !isWordChar c).filter (!·.isEmpty)

def closed (ws : List (List Char)) : List Char := ws.flatMap (· ++ [' '])

@[simp] theorem closed_nil : closed [] = [] := rfl

@[simp] theorem closed_cons (w : List Char) (ws : List (List Char)) :
    closed (w :: ws) = w ++ ' ' :: closed ws := by simp [closed]

theorem closed_eq_intercalate {ws : List (List Char)} (h : ws ≠ []) :
    closed ws = [' '].intercalate ws ++ [' '] := by
  induction ws with
  | nil => exact (h rfl).elim
  | cons w ws ih =>
    cases ws with
    | nil => simp
    | cons v ws => rw [closed_cons, ih (by simp), List.intercalate_cons_cons]; simp

section WordRuns

variable {a b cs : List Char} {c : Char}

@[simp] theorem wordRuns_nil : wordRuns [] = [] := rfl

/-- A character outside words separates the runs before it from the runs behind it. -/
theorem wordRuns_append_cons (h : isWordChar c = false) :
    wordRuns (a ++ c :: b) = wordRuns a ++ wordRuns b := by
  rw [wordRuns, List.splitOnP_append_cons a b (by simp [h]), List.filter_append]
  rfl

theorem wordRuns_eq_singleton (hn : cs ≠ []) (h : ∀ c ∈ cs, isWordChar c = true) :
    wordRuns cs = [cs] := by
  rw [wordRuns, List.splitOnP_eq_singleton (by simpa using h)]
  simp [hn]

theorem wordRuns_eq_nil (h : ∀ c ∈ cs, isWordChar c = false) : wordRuns cs = [] := by
  induction cs with
  | nil => rfl
  | cons c cs ih =>
    obtain ⟨hc, hcs⟩ := List.forall_mem_cons.mp h
    rw [← List.nil_append (c :: cs), wordRuns_append_cons hc, ih hcs, wordRuns_nil, List.nil_append]

theorem mem_of_mem_splitOnP {p : Char → Bool} {w : List Char} (h : w ∈ cs.splitOnP p)
    (hc : c ∈ w) : p c = false ∧ c ∈ cs := by
  induction cs generalizing w with
  | nil =>
    rw [List.splitOnP_nil, List.mem_singleton] at h
    simp [h] at hc
  | cons d cs ih =>
    obtain ⟨first, rest, hs⟩ := List.exists_cons_of_ne_nil (List.splitOnP_ne_nil p cs)
    have hrest {w} (hw : w ∈ first :: rest) (hc : c ∈ w) : p c = false ∧ c ∈ d :: cs := by
      obtain ⟨hp, hm⟩ := ih (hs ▸ hw) hc
      exact ⟨hp, List.mem_cons_of_mem _ hm⟩
    rw [List.splitOnP_cons_eq_if_modifyHead, hs] at h
    split at h
    · rcases List.mem_cons.mp h with rfl | h
      · simp at hc
      · exact hrest h hc
    · next hp =>
      rcases List.mem_cons.mp h with rfl | h
      · rcases List.mem_cons.mp hc with rfl | hc
        · exact ⟨by simpa using hp, List.mem_cons_self⟩
        · exact hrest List.mem_cons_self hc
      · exact hrest (List.mem_cons_of_mem _ h) hc

theorem spaceRuns_concat_space (cs : List Char) (inRun : Bool) :
    spaceRuns inRun (cs ++ [' ']) = spaceRuns inRun cs ∨
      spaceRuns inRun (cs ++ [' ']) = spaceRuns inRun cs ++ [' '] := by
  induction cs generalizing inRun with
  | nil => cases inRun <;> decide
  | cons c cs ih =>
    rw [List.cons_append, spaceRuns, spaceRuns]
    split
    · rcases ih false with h | h <;> simp [h]
    · split
      · exact ih true
      · rcases ih true with h | h <;> simp [h]

/-- In front of a separator every run is closed by one space. Inside a run of separators an empty
first part has left no trace, outside it stands for the space already written. -/
theorem spaceRuns_eq_closed (cs : List Char) : ∃ first rest,
    (cs.splitOnP fun c => !isWordChar c) = first :: rest ∧
    spaceRuns false (cs ++ [' ']) = first ++ ' ' :: closed (rest.filter (!·.isEmpty)) ∧
    spaceRuns true (cs ++ [' ']) = closed ((first :: rest).filter (!·.isEmpty)) := by
  induction cs with
  | nil => exact ⟨[], [], rfl, by decide, by decide⟩
  | cons c cs ih =>
    obtain ⟨first, rest, hs, hf, ht⟩ := ih
    rw [List.splitOnP_cons_eq_if_modifyHead, hs]
    cases hc : isWordChar c with
    | true =>
      exact ⟨c :: first, rest, by simp, by simp [spaceRuns, hc, hf], by simp [spaceRuns, hc, hf]⟩
    | false =>
      exact ⟨[], first :: rest, by simp, by simp [spaceRuns, hc, ht], by simp [spaceRuns, hc, ht]⟩

theorem stripChars_spaceRuns :
    stripChars (spaceRuns false cs) = stripChars (closed (wordRuns cs)) := by
  have hc : stripChars (spaceRuns false (cs ++ [' '])) = stripChars (spaceRuns false cs) := by
    rcases spaceRuns_concat_space cs false with h | h
    · rw [h]
    · rw [h, stripChars_concat_space]
  obtain ⟨first, rest, hs, hf, _⟩ := spaceRuns_eq_closed cs
  rw [← hc, hf, wordRuns, hs]
  cases first with
  | nil => rw [List.nil_append, stripChars_space_cons]; rfl
  | cons c first => simp

end WordRuns

/-! ## Words -/

/-- What stands between the spaces of a normal form: letters and digits, at least one, that
lower-casing leaves alone. -/
structure IsWord (w : List Char) : Prop where
  ne_nil : w ≠ []
  isWordChar : ∀ c ∈ w, isWordChar c = true
  isSmall : ∀ c ∈ w, IsSmall c

section IsWord

variable {w cs : List Char} {ws : List (List Char)}

theorem isWord_of_mem_wordRuns (h : w ∈ wordRuns (lowerChars cs)) : IsWord w where
  ne_nil := by simpa using (List.mem_filter.mp h).2
  isWordChar c hc := by simpa using (mem_of_mem_splitOnP (List.mem_filter.mp h).1 hc).1
  isSmall c hc := isSmall_of_mem_lowerChars (mem_of_mem_splitOnP (List.mem_filter.mp h).1 hc).2

theorem IsWord.space_not_mem (h : IsWord w) : ' ' ∉ w :=
  fun hs => ne_space (h.isWordChar _ hs) rfl

theorem intercalate_ne_nil (hn : ws ≠ []) (hw : ∀ w ∈ ws, IsWord w) :
    [' '].intercalate ws ≠ [] := by
  cases ws with
  | nil => exact (hn rfl).elim
  | cons w ws =>
    obtain ⟨c, v, rfl⟩ := List.exists_cons_of_ne_nil (hw _ List.mem_cons_self).ne_nil
    simp [List.intercalate_cons_cons_left]

theorem exists_mem_of_head? {c : Char} (hw : ∀ w ∈ ws, IsWord w)
    (h : ([' '].intercalate ws).head? = some c) : ∃ w ∈ ws, c ∈ w := by
  cases ws with
  | nil => simp at h
  | cons w ws =>
    obtain ⟨d, v, rfl⟩ := List.exists_cons_of_ne_nil (hw _ List.mem_cons_self).ne_nil
    rw [List.intercalate_cons_cons_left, List.head?_cons, Option.some.injEq] at h
    exact ⟨d :: v, List.mem_cons_self, h ▸ List.mem_cons_self⟩

theorem exists_mem_of_getLast? {c : Char} (hw : ∀ w ∈ ws, IsWord w)
    (h : ([' '].intercalate ws).getLast? = some c) : ∃ w ∈ ws, c ∈ w := by
  induction ws with
  | nil => simp at h
  | cons w ws ih =>
    have hws := (List.forall_mem_cons.mp hw).2
    by_cases hn : ws = []
    · subst hn
      rw [List.intercalate_singleton] at h
      exact ⟨w, List.mem_cons_self, List.mem_of_getLast? h⟩
    · rw [List.intercalate_cons_of_ne_nil hn, List.getLast?_append,
        List.getLast?_eq_some_getLast (intercalate_ne_nil hn hws), Option.some_or] at h
      rw [← List.getLast?_eq_some_getLast] at h
      obtain ⟨v, hv, hc⟩ := ih hws h
      exact ⟨v, List.mem_cons_of_mem _ hv, hc⟩

theorem eq_space_or_exists_mem {c : Char} (h : c ∈ [' '].intercalate ws) :
    c = ' ' ∨ ∃ w ∈ ws, c ∈ w := by
  induction ws with
  | nil => simp at h
  | cons w ws ih =>
    by_cases hn : ws = []
    · subst hn
      exact Or.inr ⟨w, by simp, by simpa using h⟩
    · rw [List.intercalate_cons_of_ne_nil hn, List.mem_append, List.mem_append,
        List.mem_singleton] at h
      rcases h with (h | h) | h
      · exact Or.inr ⟨w, List.mem_cons_self, h⟩
      · exact Or.inl h
      · rcases ih h with h | ⟨v, hv, hc⟩
        · exact Or.inl h
        · exact Or.inr ⟨v, List.mem_cons_of_mem _ hv, hc⟩

theorem stripChars_closed (hw : ∀ w ∈ ws, IsWord w) :
    stripChars (closed ws) = [' '].intercalate ws := by
  cases hws : ws with
  | nil => rfl
  | cons w rest =>
    rw [← hws, closed_eq_intercalate (by simp [hws]), stripChars_concat_space]
    apply stripChars_eq_self
    · intro c hc
      obtain ⟨v, hv, hm⟩ := exists_mem_of_head? hw hc
      exact isBlank_eq_false ((hw v hv).isWordChar c hm)
    · intro c hc
      obtain ⟨v, hv, hm⟩ := exists_mem_of_getLast? hw hc
      exact isBlank_eq_false ((hw v hv).isWordChar c hm)

theorem wordRuns_intercalate (hw : ∀ w ∈ ws, IsWord w) :
    wordRuns ([' '].intercalate ws) = ws := by
  induction ws with
  | nil => rfl
  | cons w ws ih =>
    obtain ⟨hw, hws⟩ := List.forall_mem_cons.mp hw
    have hr := wordRuns_eq_singleton hw.ne_nil hw.isWordChar
    cases ws with
    | nil => simpa using hr
    | cons v ws =>
      rw [List.intercalate_cons_cons, List.append_assoc, List.singleton_append,
        wordRuns_append_cons isWordChar_space, hr, ih hws]
      rfl

theorem normalizeChars_eq_intercalate :
    normalizeChars cs = [' '].intercalate (wordRuns (lowerChars cs)) := by
  rw [normalizeChars, stripChars_spaceRuns, stripChars_closed fun _ => isWord_of_mem_wordRuns]

theorem lowerChars_intercalate (hw : ∀ w ∈ ws, IsWord w) :
    lowerChars ([' '].intercalate ws) = [' '].intercalate ws := by
  apply lowerChars_eq_self
  intro c hc
  rcases eq_space_or_exists_mem hc with rfl | ⟨w, hm, hc⟩
  · constructor <;> decide
  · exact (hw w hm).isSmall c hc

theorem normalizeChars_intercalate (hw : ∀ w ∈ ws, IsWord w) :
    normalizeChars ([' '].intercalate ws) = [' '].intercalate ws := by
  rw [normalizeChars_eq_intercalate, lowerChars_intercalate hw, wordRuns_intercalate hw]

end IsWord

end Shortlist.Text
