import Shortlist.Text.Words

/-! # Sets of phrases

A set of phrases is kept as a list in ascending order of code points, each phrase once, so that
equal sets are equal lists.
-/

namespace Shortlist

/-- Phrases in ascending order without repetition. -/
abbrev PhraseSet := List String

namespace PhraseSet

def dropRepeats : List String → List String
  | [] => []
  | [x] => [x]
  | x :: y :: rest =>
    if x = y then dropRepeats (y :: rest) else x :: dropRepeats (y :: rest)

def ofList (phrases : List String) : PhraseSet :=
  dropRepeats (phrases.mergeSort fun a b => decide ¬ b < a)

def ofTokens (phrase : String) : PhraseSet := ofList ((Text.tokens phrase).filter (!·.isEmpty))

def meets (xs ys : PhraseSet) : Bool := xs.any ys.contains

end PhraseSet

end Shortlist
