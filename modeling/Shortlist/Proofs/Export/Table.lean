import Shortlist.Proofs.Export.Ranking
import Shortlist.Proofs.Text.Tokens

/-! # The table on the page

The texts in a table are written as they are. So the table has one line for each of the first ten
analyses, of five cells, exactly if no text in it holds a line feed or a bar that is not behind a
backslash.
-/

namespace Shortlist

/-! ## Reading a table -/

namespace Markdown

/-- The parts of a line between its bars. A backslash keeps the character behind it in its part;
`escaped` tells that one has just been read. -/
def splitBars : (escaped : Bool) → List Char → List (List Char)
  | _, [] => [[]]
  | escaped, c :: cs =>
    if c = '|' && !escaped then [] :: splitBars false cs
    else (splitBars (c = '\\' && !escaped) cs).modifyHead (c :: ·)

def openBars : (escaped : Bool) → List Char → Nat
  | _, [] => 0
  | escaped, c :: cs =>
    if c = '|' && !escaped then openBars false cs + 1
    else openBars (c = '\\' && !escaped) cs

/-- The cells of a line in a table, from the bar at its beginning to the bar at its end. -/
def cells? (line : String) : Option (List String) :=
  match splitBars false line.toList with
  | [] :: rest =>
    if rest.getLast? = some [] then some (rest.dropLast.map String.ofList) else none
  | _ => none

def tableLine (texts : List (List Char)) : List Char :=
  '|' :: texts.flatMap fun t => ' ' :: (t ++ [' ', '|'])

@[mk_iff]
structure Fits (text : String) : Prop where
  oneLine : '\n' ∉ text.toList
  noBar : openBars false text.toList = 0

instance (text : String) : Decidable (Fits text) := decidable_of_iff' _ (fits_iff text)

variable {escaped : Bool} {c : Char} {s t : List Char} {texts : List (List Char)}

theorem length_splitBars : (splitBars escaped s).length = openBars escaped s + 1 := by
  induction s generalizing escaped with
  | nil => rfl
  | cons c s ih =>
    rw [splitBars, openBars]
    split
    · rw [List.length_cons, ih]
    · rw [List.length_modifyHead, ih]

@[simp] theorem splitBars_ne_nil : splitBars escaped s ≠ [] := by
  rw [← List.length_pos_iff, length_splitBars]
  exact Nat.succ_pos _

/-- Behind an ordinary character nothing is escaped. -/
theorem openBars_append_cons (hbar : c ≠ '|') (hslash : c ≠ '\\') :
    openBars escaped (s ++ c :: t) = openBars escaped s + openBars false t := by
  induction s generalizing escaped with
  | nil => simp [openBars, hbar, hslash]
  | cons d s ih =>
    rw [List.cons_append, openBars, openBars]
    split
    · rw [ih]
      omega
    · exact ih

/-- A bar behind a space is not escaped. -/
theorem splitBars_append_bar :
    splitBars escaped (s ++ ' ' :: '|' :: t) =
      splitBars escaped (s ++ [' ']) ++ splitBars false t := by
  induction s generalizing escaped with
  | nil => simp [splitBars]
  | cons c s ih =>
    rw [List.cons_append, List.cons_append, splitBars, splitBars]
    split
    · rw [ih, List.cons_append]
    · have hne : splitBars (c = '\\' && !escaped) (s ++ [' ']) ≠ [] := splitBars_ne_nil
      obtain ⟨first, rest, he⟩ := List.exists_cons_of_ne_nil hne
      rw [ih, he]
      rfl

theorem splitBars_flatMap :
    splitBars false (texts.flatMap fun t => ' ' :: (t ++ [' ', '|'])) =
      (texts.flatMap fun t => splitBars false (' ' :: (t ++ [' ']))) ++ [[]] := by
  induction texts with
  | nil => rfl
  | cons t texts ih =>
    have hline : ' ' :: (t ++ [' ', '|']) ++ (texts.flatMap fun t => ' ' :: (t ++ [' ', '|'])) =
        (' ' :: t) ++ ' ' :: '|' :: texts.flatMap fun t => ' ' :: (t ++ [' ', '|']) := by simp
    rw [List.flatMap_cons, hline, splitBars_append_bar, ih, List.flatMap_cons, List.append_assoc]
    rfl

theorem cells?_tableLine : cells? (String.ofList (tableLine texts)) =
    some ((texts.flatMap fun t => splitBars false (' ' :: (t ++ [' ']))).map String.ofList) := by
  rw [cells?, String.toList_ofList, tableLine, splitBars]
  simp [splitBars_flatMap]

theorem length_splitBars_cell :
    (splitBars false (' ' :: (t ++ [' ']))).length = openBars false t + 1 := by
  have hopen : openBars false (' ' :: (t ++ [' '])) = openBars false t := by
    rw [← List.nil_append (' ' :: (t ++ [' '])), openBars_append_cons (by decide) (by decide),
      openBars_append_cons (by decide) (by decide)]
    simp [openBars]
  rw [length_splitBars, hopen]

theorem openBars_eq_zero (h : '|' ∉ s) : openBars escaped s = 0 := by
  induction s generalizing escaped with
  | nil => rfl
  | cons c s ih =>
    rw [List.mem_cons, not_or] at h
    rw [openBars, if_neg (by simp [Ne.symm h.1])]
    exact ih h.2

theorem fits_of_not_mem {text : String} (hfeed : '\n' ∉ text.toList) (hbar : '|' ∉ text.toList) :
    Fits text := ⟨hfeed, openBars_eq_zero hbar⟩

theorem openBars_append_space : openBars false (s ++ ',' :: ' ' :: t) =
    openBars false s + openBars false t := by
  rw [openBars_append_cons (by decide) (by decide), ← List.nil_append (' ' :: t),
    openBars_append_cons (by decide) (by decide)]
  simp [openBars]

theorem fits_join_iff (texts : List String) :
    Fits (Text.join ", " texts) ↔ ∀ text ∈ texts, Fits text := by
  induction texts with
  | nil => simp [Text.join, fits_iff, openBars]
  | cons text rest ih =>
    cases rest with
    | nil => simp [Text.join]
    | cons next rest =>
      have hline : (Text.join ", " (text :: next :: rest)).toList =
          text.toList ++ ',' :: ' ' :: (Text.join ", " (next :: rest)).toList := by
        rw [Text.join_cons_cons, String.toList_append, String.toList_append, List.append_assoc]
        rfl
      rw [List.forall_mem_cons, ← ih, fits_iff, fits_iff, fits_iff, hline, openBars_append_space,
        Nat.add_eq_zero_iff]
      simp only [List.mem_append, List.mem_cons, Char.reduceEq, false_or, not_or]
      exact and_and_and_comm

end Markdown

/-! ## Numbers in a table -/

namespace Decimal

theorem isDigit_of_mem_padLeft {width n : Nat} {c : Char} (h : c ∈ padLeft width (digitsOf n)) :
    c.isDigit = true := by
  rcases List.mem_append.mp h with h | h
  · rw [List.eq_of_mem_replicate h]
    decide
  · exact Nat.isDigit_of_mem_toDigits (by decide) (by decide) h

theorem mem_writeUnits {places units : Nat} {c : Char} (h : c ∈ writeUnits places units) :
    c.isDigit = true ∨ c = '.' := by
  simp only [writeUnits] at h
  split at h
  · exact Or.inl (isDigit_of_mem_padLeft h)
  · rcases List.mem_append.mp h with h | h
    · exact Or.inl (isDigit_of_mem_padLeft (List.mem_of_mem_take h))
    · rcases List.mem_cons.mp h with h | h
      · exact Or.inr h
      · exact Or.inl (isDigit_of_mem_padLeft (List.mem_of_mem_drop h))

theorem fits_writeFixed (places : Nat) (x : Float) : Markdown.Fits (writeFixed places x) := by
  have hwritten : ∀ c ∈ (writeFixed places x).toList,
      c.isDigit = true ∨ c ∈ ['.', '-', 'n', 'a', 'i', 'f'] := by
    intro c hc
    rw [writeFixed] at hc
    split at hc
    · exact Or.inr (by revert hc; simp; tauto)
    · exact Or.inr (by revert hc; split <;> simp <;> tauto)
    · next negative m q _ =>
      have hunits : c ∈ writeUnits places (roundedUnits places m q) ∨ c = '-' := by
        revert hc
        cases negative <;> simp <;> tauto
      rcases hunits with h | rfl
      · exact (mem_writeUnits h).imp_right fun hdot => by simp [hdot]
      · simp
  refine Markdown.fits_of_not_mem (fun hfeed => ?_) fun hbar => ?_
  · exact absurd (hwritten _ hfeed) (by decide)
  · exact absurd (hwritten _ hbar) (by decide)

theorem fits_toString (n : Nat) : Markdown.Fits (toString n) := by
  have hdigit : ∀ c ∈ (toString n).toList, c.isDigit = true := by
    intro c hc
    rw [Nat.toString_eq_ofList_toDigits, String.toList_ofList] at hc
    exact Nat.isDigit_of_mem_toDigits (by decide) (by decide) hc
  refine Markdown.fits_of_not_mem (fun hfeed => ?_) fun hbar => ?_
  · exact absurd (hdigit _ hfeed) (by decide)
  · exact absurd (hdigit _ hbar) (by decide)

end Decimal

/-! ## The lines of the table -/

section Flatten

variable {α β : Type} {l : List α} {f : α → List β}

theorem length_le_length_flatMap (h : ∀ a ∈ l, f a ≠ []) : l.length ≤ (l.flatMap f).length := by
  induction l with
  | nil => exact Nat.zero_le _
  | cons a l ih =>
    obtain ⟨ha, hl⟩ := List.forall_mem_cons.mp h
    have hpos := List.length_pos_of_ne_nil ha
    have hle := ih hl
    rw [List.flatMap_cons, List.length_append, List.length_cons]
    omega

/-- Parts that are none of them empty are as many as their members only if each has one. -/
theorem length_flatMap_eq_iff (h : ∀ a ∈ l, f a ≠ []) :
    (l.flatMap f).length = l.length ↔ ∀ a ∈ l, (f a).length = 1 := by
  induction l with
  | nil => simp
  | cons a l ih =>
    obtain ⟨ha, hl⟩ := List.forall_mem_cons.mp h
    have hpos := List.length_pos_of_ne_nil ha
    have hle := length_le_length_flatMap hl
    rw [List.forall_mem_cons, ← ih hl, List.flatMap_cons, List.length_append, List.length_cons]
    omega

end Flatten

namespace Analysis

variable {a : Analysis} {rank : Nat}

def cellTexts (rank : Nat) (a : Analysis) : List String :=
  [toString rank, a.resumeId, Decimal.writeFixed 3 (Decimal.roundTo 4 a.score),
    Text.join ", " a.report.matchedSkills, Text.join ", " a.report.missingSkills]

/-- What an analysis brings into the table fits into its cells. -/
def FitsTable (a : Analysis) : Prop :=
  Markdown.Fits a.resumeId ∧
    ∀ skill ∈ a.report.matchedSkills ++ a.report.missingSkills, Markdown.Fits skill

instance (a : Analysis) : Decidable a.FitsTable := inferInstanceAs (Decidable (_ ∧ _))

theorem fitsTable_iff (rank : Nat) :
    a.FitsTable ↔ ∀ text ∈ a.cellTexts rank, Markdown.Fits text := by
  simp only [cellTexts, List.forall_mem_cons, Markdown.fits_join_iff, FitsTable,
    List.forall_mem_append, Decimal.fits_toString, Decimal.fits_writeFixed, List.not_mem_nil,
    true_and, and_true, false_imp_iff, implies_true]

theorem rankLine_eq :
    a.rankLine rank =
      String.ofList (Markdown.tableLine ((a.cellTexts rank).map String.toList)) := by
  apply String.toList_injective
  unfold rankLine
  simp [cellTexts, Markdown.tableLine]

theorem length_cells_rankLine :
    (∃ cells, Markdown.cells? (a.rankLine rank) = some cells ∧ cells.length = 5) ↔
      ∀ text ∈ a.cellTexts rank, Markdown.openBars false text.toList = 0 := by
  rw [rankLine_eq, Markdown.cells?_tableLine]
  simp only [Option.some.injEq, exists_eq_left', List.length_map]
  have hfive : 5 = ((a.cellTexts rank).map String.toList).length := rfl
  rw [hfive, length_flatMap_eq_iff fun _ _ => Markdown.splitBars_ne_nil]
  simp [Markdown.length_splitBars_cell]

theorem feed_mem_rankLine :
    '\n' ∈ (a.rankLine rank).toList ↔ ∃ text ∈ a.cellTexts rank, '\n' ∈ text.toList := by
  rw [rankLine_eq, String.toList_ofList, Markdown.tableLine]
  simp

theorem fitsTable_iff_line : a.FitsTable ↔ '\n' ∉ (a.rankLine rank).toList ∧
    ∃ cells, Markdown.cells? (a.rankLine rank) = some cells ∧ cells.length = 5 := by
  rw [fitsTable_iff rank, length_cells_rankLine, feed_mem_rankLine]
  simp only [Markdown.fits_iff, not_exists, not_and, forall_and]

end Analysis

/-! ## The lines of the page -/

namespace Text

theorem split_join_feed {parts : List String} (h : parts ≠ []) :
    split '\n' (join "\n" parts) = parts.flatMap (split '\n') := by
  induction parts with
  | nil => exact (h rfl).elim
  | cons s rest ih =>
    cases rest with
    | nil => simp [join]
    | cons next rest =>
      have hline : (join "\n" (s :: next :: rest)).toList =
          s.toList ++ '\n' :: (join "\n" (next :: rest)).toList := by
        simp [join_cons_cons]
      rw [List.flatMap_cons, ← ih (List.cons_ne_nil _ _), split, split, split,
        splitChars_eq_splitOn, splitChars_eq_splitOn, splitChars_eq_splitOn, hline,
        List.splitOn_append_cons_self, List.map_append]

theorem split_ne_nil (sep : Char) (s : String) : split sep s ≠ [] := by
  simp [split, splitChars_eq_splitOn]

theorem split_eq_singleton {sep : Char} {s : String} (h : sep ∉ s.toList) : split sep s = [s] := by
  rw [split, splitChars_eq_splitOn, List.splitOn_eq_singleton h, List.map_singleton,
    String.ofList_toList]

theorem length_split_eq_one_iff {sep : Char} {s : String} :
    (split sep s).length = 1 ↔ sep ∉ s.toList := by
  constructor
  · intro hone hs
    obtain ⟨a, b, hab⟩ := List.append_of_mem hs
    rw [split, List.length_map, splitChars_eq_splitOn, hab, List.splitOn_append_cons_self,
      List.length_append] at hone
    have ha := List.length_pos_of_ne_nil (List.splitOn_ne_nil sep a)
    have hb := List.length_pos_of_ne_nil (List.splitOn_ne_nil sep b)
    omega
  · intro h
    rw [split_eq_singleton h]
    rfl

end Text

namespace Digest

variable {v : Vacancy} {analyses : List Analysis}

/-- The lines before the table. -/
def front (v : Vacancy) : List String :=
  Text.split '\n' (heading v) ++ Text.split '\n' (description v)

/-- The lines behind the rule that ends the table. -/
def back (analyses : List Analysis) : List String :=
  "HR notes (top-5):" ::
    ((Analysis.ranked analyses).take 5).flatMap fun a => Text.split '\n' a.noteLine

def rankLines (analyses : List Analysis) : List String :=
  ((Analysis.ranked analyses).take 10).mapIdx fun i a => a.rankLine (i + 1)

/-- Between what the vacancy says and the notes stands a table with a line of five cells for each of
the first ten analyses. -/
def HasTable (v : Vacancy) (analyses : List Analysis) : Prop :=
  ∃ rows, Text.split '\n' (markdownExport v analyses) =
      front v ++ (tableHead ++ (rows ++ "" :: "---" :: back analyses)) ∧
    rows.length = min 10 analyses.length ∧
    ∀ row ∈ rows, ∃ cells, Markdown.cells? row = some cells ∧ cells.length = 5

theorem length_rankLines (analyses : List Analysis) :
    (rankLines analyses).length = min 10 analyses.length := by
  rw [rankLines, List.length_mapIdx, List.length_take, (Analysis.ranked_perm analyses).length_eq]

theorem mem_rankLines {line : String} : line ∈ rankLines analyses ↔
    ∃ i, ∃ h : i < ((Analysis.ranked analyses).take 10).length,
      ((Analysis.ranked analyses).take 10)[i].rankLine (i + 1) = line := by
  rw [rankLines, List.mem_mapIdx]

theorem split_markdownExport (h : analyses ≠ []) :
    Text.split '\n' (markdownExport v analyses) = front v ++ (tableHead ++
      ((rankLines analyses).flatMap (Text.split '\n') ++ "" :: "---" :: back analyses)) := by
  have hne : (Analysis.ranked analyses).isEmpty = false := by
    rw [List.isEmpty_eq_false_iff, ← List.length_pos_iff,
      (Analysis.ranked_perm analyses).length_eq, List.length_pos_iff]
    exact h
  have hhead : tableHead.flatMap (Text.split '\n') = tableHead := by decide
  have hrule : Text.split '\n' "\n---\nHR notes (top-5):" = ["", "---", "HR notes (top-5):"] := by
    decide
  rw [markdownExport_ranked, lines, hne, if_neg Bool.false_ne_true,
    Text.split_join_feed (List.cons_ne_nil _ _)]
  simp only [List.flatMap_cons, List.flatMap_append, List.flatMap_map, hhead, hrule, front, back,
    rankLines, List.append_assoc, List.cons_append, List.nil_append]

/-- The lines of the table are as many and as wide as they should be exactly if the texts fit. -/
theorem forall_fitsTable_iff : (∀ a ∈ (Analysis.ranked analyses).take 10, a.FitsTable) ↔
    ∀ line ∈ rankLines analyses, '\n' ∉ line.toList ∧
      ∃ cells, Markdown.cells? line = some cells ∧ cells.length = 5 := by
  constructor
  · intro h line hline
    obtain ⟨i, hi, rfl⟩ := mem_rankLines.mp hline
    exact Analysis.fitsTable_iff_line.mp (h _ (List.getElem_mem hi))
  · intro h a ha
    obtain ⟨i, hi, rfl⟩ := List.getElem_of_mem ha
    exact Analysis.fitsTable_iff_line.mpr (h _ (mem_rankLines.mpr ⟨i, hi, rfl⟩))

theorem hasTable_of_fits (hne : analyses ≠ [])
    (h : ∀ a ∈ (Analysis.ranked analyses).take 10, a.FitsTable) : HasTable v analyses := by
  rw [forall_fitsTable_iff] at h
  have hsplit : (rankLines analyses).flatMap (Text.split '\n') = rankLines analyses := by
    rw [List.flatMap_congr fun line hline => Text.split_eq_singleton (h line hline).1,
      List.flatMap_singleton']
  refine ⟨rankLines analyses, ?_, length_rankLines analyses, fun line hline => (h line hline).2⟩
  rw [split_markdownExport hne, hsplit]

theorem HasTable.fits (hne : analyses ≠ []) (h : HasTable v analyses) :
    ∀ a ∈ (Analysis.ranked analyses).take 10, a.FitsTable := by
  obtain ⟨rows, hrows, hlength, hcells⟩ := h
  rw [split_markdownExport hne, List.append_cancel_left_eq, List.append_cancel_left_eq,
    List.append_cancel_right_eq] at hrows
  subst hrows
  rw [← length_rankLines, length_flatMap_eq_iff fun _ _ => Text.split_ne_nil _ _] at hlength
  rw [forall_fitsTable_iff]
  intro line hline
  have hfeed := Text.length_split_eq_one_iff.mp (hlength line hline)
  refine ⟨hfeed, hcells line (List.mem_flatMap.mpr ⟨line, hline, ?_⟩)⟩
  rw [Text.split_eq_singleton hfeed]
  exact List.mem_singleton_self line

/-- The page has its table exactly if the texts of the first ten analyses fit into cells. What the
vacancy and the notes say makes no difference. -/
theorem hasTable_iff_fits (v : Vacancy) (hne : analyses ≠ []) :
    HasTable v analyses ↔ ∀ a ∈ (Analysis.ranked analyses).take 10, a.FitsTable :=
  ⟨HasTable.fits hne, hasTable_of_fits hne⟩

/-- A vacancy whose texts look like lines of a table. -/
def ruled : Vacancy :=
  ⟨"v1", none, "Backend | Go\n---", "| Rank |\n| 1 | r9 |\n\n---", [], Analyses.noon.now⟩

/-- An analysis with a bar behind a backslash in a skill, and bars in its note. -/
def escaping : Analysis :=
  ⟨"a1", "r1", "v1", none, 0.5, "",
    ⟨"", ["Go", "sed s\\|a\\|b\\|"], ["Rust, or C"], [], "Hire | wait\n---", []⟩, Analyses.noon.now⟩

theorem hasTable_iff_fits_escaping : [escaping] ≠ [] ∧
    (∀ a ∈ (Analysis.ranked [escaping]).take 10, a.FitsTable) ∧ HasTable ruled [escaping] := by
  have hne : [escaping] ≠ [] := List.cons_ne_nil _ _
  have hfits : ∀ a ∈ (Analysis.ranked [escaping]).take 10, a.FitsTable := by
    simp only [Analysis.ranked, List.mergeSort_singleton]
    decide
  exact ⟨hne, hfits, (hasTable_iff_fits ruled hne).mpr hfits⟩

/-- A vacancy and an analysis for it, of a resume with a bar in its id. -/
def plainVacancy : Vacancy :=
  ⟨"v1", none, "Go developer", "Go services", [], Analyses.noon.now⟩

def barred : Analysis :=
  ⟨"a1", "a|b", "v1", none, 0.5, "", ⟨"", ["Go"], ["Rust"], [], "", []⟩, Analyses.noon.now⟩

/-- The bar ends a cell, so that the line has six of them. -/
theorem barred_breaks_table : [barred] ≠ [] ∧ ¬ HasTable plainVacancy [barred] ∧
    Markdown.cells? (barred.rankLine 1) =
      some [" 1 ", " a", "b ", " 0.500 ", " Go ", " Rust "] := by
  have hne : [barred] ≠ [] := List.cons_ne_nil _ _
  refine ⟨hne, fun h => ?_, by decide +kernel⟩
  have hfits := h.fits hne barred (by simp [Analysis.ranked])
  exact absurd hfits (by decide)

end Digest

end Shortlist
