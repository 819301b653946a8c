import Shortlist.Export.Csv

/-! # Reading comma-separated rows

A reader takes rows apart character by character. Outside quotes a comma ends a field and a line
feed a row; inside them only a quote counts, and two of them stand for one. What was written as a
table is read as the same rows.
-/

namespace Shortlist.Csv

inductive Place where
  | start
  | bare
  | quoted
  | closed
deriving DecidableEq, Repr

/-- What a reader has read: complete rows, complete fields of a row, and some of a field. -/
structure Reading where
  rows : List (List String)
  fields : List String
  field : List Char
  place : Place
deriving DecidableEq, Repr

namespace Reading

def push (r : Reading) (c : Char) (place : Place) : Reading :=
  { r with field := r.field ++ [c], place }

def endField (r : Reading) : Reading :=
  { r with fields := r.fields ++ [String.ofList r.field], field := [], place := .start }

def endRow (r : Reading) : Reading :=
  ⟨r.rows ++ [r.fields ++ [String.ofList r.field]], [], [], .start⟩

def plain (r : Reading) (c : Char) : Reading :=
  if c = ',' then r.endField else if c = '\n' then r.endRow else r.push c .bare

/-- Reads a character. After a closing quote only a separator or a second quote can come. -/
def step (r : Reading) (c : Char) : Option Reading :=
  match r.place with
  | .start => some (if c = '"' then { r with place := .quoted } else r.plain c)
  | .bare => some (r.plain c)
  | .quoted => some (if c = '"' then { r with place := .closed } else r.push c .quoted)
  | .closed =>
    if c = '"' then some (r.push c .quoted)
    else if c = ',' || c = '\n' then some (r.plain c)
    else none

/-- The rows at the end of a text; the last one may lack its line feed. -/
def finish (r : Reading) : Option (List (List String)) :=
  if r.place = .quoted then none
  else if r.fields = [] ∧ r.place = .start then some r.rows
  else some r.endRow.rows

end Reading

def read (s : String) : Option (List (List String)) :=
  (s.toList.foldlM Reading.step ⟨[], [], [], .start⟩).bind Reading.finish

/-! ## Reading what was written -/

open Reading

variable {quoting : Quoting} {r : Reading} {c : Char} {cs : List Char}

theorem step_separator (hr : r.place ≠ .quoted) (hc : c = ',' ∨ c = '\n') :
    r.step c = some (r.plain c) := by
  have hq : c ≠ '"' := by
    rintro rfl
    revert hc
    decide
  obtain ⟨rows, fields, field, place⟩ := r
  cases place with
  | quoted => exact (hr rfl).elim
  | start => simp [step, hq]
  | bare => rfl
  | closed => rcases hc with rfl | rfl <;> rfl

theorem foldlM_step_bare (hr : r.place = .bare) (hcs : cs.any quoting.calledForBy = false) :
    cs.foldlM step r = some { r with field := r.field ++ cs } := by
  induction cs generalizing r with
  | nil => simp [Option.pure_def]
  | cons c cs ih =>
    simp only [Quoting.calledForBy, List.any_cons, Bool.or_eq_false_iff,
      decide_eq_false_iff_not] at hcs
    obtain ⟨⟨⟨⟨hcomma, -⟩, hfeed⟩, -⟩, hcs⟩ := hcs
    have hstep : r.step c = some (r.push c .bare) := by
      simp only [step, hr, plain, hcomma, hfeed, if_false]
    rw [List.foldlM_cons, hstep, Option.bind_eq_bind, Option.bind_some, ih rfl hcs]
    simp [push, hr]

/-- Between quotes every character is taken, and of a double quote one. -/
theorem foldlM_step_doubleQuotes (hr : r.place = .quoted) :
    (doubleQuotes cs).foldlM step r = some { r with field := r.field ++ cs } := by
  induction cs generalizing r with
  | nil => simp [doubleQuotes, Option.pure_def]
  | cons c cs ih =>
    have hrest : (doubleQuotes cs).foldlM step (r.push c .quoted) =
        some { r with field := r.field ++ c :: cs } := by
      rw [ih rfl]
      simp [push, hr]
    rw [doubleQuotes, List.flatMap_cons, List.foldlM_append]
    by_cases hc : c = '"'
    · subst hc
      simpa [step, hr, push, doubleQuotes] using hrest
    · simpa [step, hr, hc, doubleQuotes] using hrest

theorem foldlM_step_field (quoting : Quoting) (cs : List Char) (rows : List (List String))
    (fields : List String) :
    ∃ place ≠ .quoted, (field quoting cs).foldlM step ⟨rows, fields, [], .start⟩ =
      some ⟨rows, fields, cs, place⟩ := by
  rw [field]
  split
  · refine ⟨.closed, by decide, ?_⟩
    have hopen : step ⟨rows, fields, [], .start⟩ '"' = some ⟨rows, fields, [], .quoted⟩ := rfl
    rw [List.foldlM_cons, hopen, Option.bind_eq_bind, Option.bind_some, List.foldlM_append,
      foldlM_step_doubleQuotes rfl]
    rfl
  · next hq =>
    cases cs with
    | nil => exact ⟨.start, by decide, rfl⟩
    | cons c cs =>
      refine ⟨.bare, by decide, ?_⟩
      simp only [Quoting.calledForBy, List.any_cons, Bool.or_eq_true, decide_eq_true_eq,
        not_or] at hq
      obtain ⟨⟨⟨⟨hcomma, hquote⟩, hfeed⟩, -⟩, hcs⟩ := hq
      have hstep : step ⟨rows, fields, [], .start⟩ c = some ⟨rows, fields, [c], .bare⟩ := by
        simp [step, plain, push, hcomma, hquote, hfeed]
      rw [List.foldlM_cons, hstep, Option.bind_eq_bind, Option.bind_some,
        foldlM_step_bare rfl (by simpa [Quoting.calledForBy] using hcs)]
      rfl

theorem foldlM_step_field_concat (cs : List Char) (hc : c = ',' ∨ c = '\n')
    (rows : List (List String)) (fields : List String) :
    (field quoting cs ++ [c]).foldlM step ⟨rows, fields, [], .start⟩ =
      some (plain ⟨rows, fields, cs, .start⟩ c) := by
  obtain ⟨place, hplace, hfield⟩ := foldlM_step_field quoting cs rows fields
  rw [List.foldlM_append, hfield]
  have hstep := step_separator (r := ⟨rows, fields, cs, place⟩) hplace hc
  rcases hc with rfl | rfl
  · simpa [plain, endField] using hstep
  · simpa [plain, endRow] using hstep

theorem foldlM_step_row {row : List String} (h : row ≠ []) (rows : List (List String))
    (fields : List String) :
    (Csv.row quoting (row.map String.toList)).foldlM step ⟨rows, fields, [], .start⟩ =
      some ⟨rows ++ [fields ++ row], [], [], .start⟩ := by
  rw [Csv.row]
  induction row generalizing fields with
  | nil => exact (h rfl).elim
  | cons s rest ih =>
    by_cases hrest : rest = []
    · subst hrest
      simp only [List.map_cons, List.map_nil, List.intercalate_singleton]
      rw [foldlM_step_field_concat _ (Or.inr rfl)]
      simp [plain, endRow]
    · have hne : (rest.map String.toList).map (field quoting) ≠ [] := by simpa using hrest
      rw [List.map_cons, List.map_cons, List.intercalate_cons_of_ne_nil hne, List.append_assoc,
        List.foldlM_append, foldlM_step_field_concat _ (Or.inl rfl)]
      simpa [plain, endField] using ih hrest (fields ++ [s])

/-- What was written as a table is read as its rows. -/
theorem read_table (quoting : Quoting) {rows : List (List String)} (h : ∀ row ∈ rows, row ≠ []) :
    read (table quoting rows) = some rows := by
  have hrows (before : List (List String)) :
      (rows.flatMap fun row => Csv.row quoting (row.map String.toList)).foldlM step
        ⟨before, [], [], .start⟩ = some ⟨before ++ rows, [], [], .start⟩ := by
    induction rows generalizing before with
    | nil => simp [Option.pure_def]
    | cons row rows ih =>
      obtain ⟨hrow, hrows⟩ := List.forall_mem_cons.mp h
      rw [List.flatMap_cons, List.foldlM_append, foldlM_step_row hrow, Option.bind_eq_bind,
        Option.bind_some, ih hrows]
      simp
  rw [read, table, String.toList_ofList, hrows]
  rfl

example : table .feedsAndReturns [["a\rb", "c"]] = "\"a\rb\",c\n" := by decide

end Shortlist.Csv
