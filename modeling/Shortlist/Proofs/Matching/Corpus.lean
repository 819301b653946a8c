import Shortlist.Matching.Evidence
import Shortlist.Proofs.Text.Tokens

/-! # The free text of a profile

The texts of a profile are joined before they are normalized. No word grows together across the
space between two of them and no letter changes its form because of it, so the tokens of the whole
are those of its parts in a row.
-/

namespace Shortlist

open Text

section Join

variable {ts : List String}

theorem tokens_normalize_join (ts : List String) :
    tokens (normalize (join " " ts)) = ts.flatMap fun t => tokens (normalize t) := by
  induction ts with
  | nil => rfl
  | cons t ts ih =>
    cases ts with
    | nil => simp [join]
    | cons u ts =>
      rw [join_cons_cons, tokens_normalize_append_space, ih]
      rfl

theorem flatMap_filter_isEmpty (ts : List String) :
    ((ts.filter (!·.isEmpty)).flatMap fun t => tokens (normalize t)) =
      ts.flatMap fun t => tokens (normalize t) := by
  induction ts with
  | nil => rfl
  | cons t ts ih =>
    by_cases ht : t = ""
    · subst ht
      exact ih
    · rw [List.filter_cons_of_pos (by simpa using ht), List.flatMap_cons, List.flatMap_cons, ih]

end Join

def Experience.words (e : Experience) : List String :=
  tokens (normalize e.company) ++ tokens (normalize e.role) ++ tokens (normalize e.description)

def Education.words (e : Education) : List String :=
  tokens (normalize e.institution) ++ tokens (normalize e.degree)

namespace Profile

theorem tokens_corpus (p : Profile) : tokens p.corpus = tokens (normalize p.summary) ++
    p.experience.flatMap Experience.words ++ p.education.flatMap Education.words := by
  have hexperience : (fun e : Experience => [e.company, e.role, e.description].flatMap
      fun t => tokens (normalize t)) = Experience.words := by
    funext e
    simp [Experience.words]
  have heducation : (fun e : Education => [e.institution, e.degree].flatMap
      fun t => tokens (normalize t)) = Education.words := by
    funext e
    simp [Education.words]
  rw [corpus, tokens_normalize_join, flatMap_filter_isEmpty, freeTexts, List.flatMap_cons,
    List.flatMap_append, List.flatMap_assoc, List.flatMap_assoc, hexperience, heducation,
    List.append_assoc]

/-- The tokens of the free text are those of the summary, of every job and of every course in order,
because a space between two texts keeps them apart. -/
theorem corpus_concatenates (p : Profile) :
    tokens p.corpus =
      tokens (normalize p.summary) ++
        (p.experience.flatMap fun e => tokens (normalize e.company) ++
          tokens (normalize e.role) ++ tokens (normalize e.description)) ++
        p.education.flatMap (fun e => tokens (normalize e.institution) ++
          tokens (normalize e.degree)) ∧
    ∀ a b, tokens (normalize (a ++ " " ++ b)) = tokens (normalize a) ++ tokens (normalize b) :=
  ⟨p.tokens_corpus, tokens_normalize_append_space⟩

/-- A capital sigma at the end of a text is final although a letter follows in the next one. -/
example : tokens (⟨"ΟΔΗΓΟΣ", [], [⟨"Α.Ε.", "--", "", "", "C++"⟩], []⟩ : Profile).corpus =
    ["οδηγος", "α", "ε", "c"] := by
  decide

end Profile

end Shortlist
