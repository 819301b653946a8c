import Shortlist.Text.Blank
import Shortlist.Text.Lowercase
import Shortlist.Text.Occurrence
import Shortlist.Text.Split
import Shortlist.Text.WordChar

/-! # Normal form and tokens

Two texts have the same normal form when they hold the same words up to case and to what stands
between the words. A normal form is searched for whole phrases by padding both sides with spaces.
-/

namespace Shortlist.Text

/-- Writes one space for every run of characters outside words. `inRun` tells that such a run has
begun. -/
def spaceRuns : (inRun : Bool) → List Char → List Char
  | _, [] => []
  | inRun, c :: cs =>
    if isWordChar c then c :: spaceRuns false cs
    else if inRun then spaceRuns true cs
    else ' ' :: spaceRuns true cs

def normalizeChars (cs : List Char) : List Char := stripChars (spaceRuns false (lowerChars cs))

/-- The words of a text in lower case, one space between them. -/
def normalize (s : String) : String := String.ofList (normalizeChars s.toList)

/-- The parts of a normal form; the empty text has none. -/
def tokens (normal : String) : List String := if normal.isEmpty then [] else split ' ' normal

/-- A text with a space before and behind. -/
def padded (cs : List Char) : List Char := ' ' :: cs ++ [' ']

/-- Whether a non-empty phrase stands in a text between spaces or its ends. -/
def containsPhrase (haystack needle : String) : Bool :=
  !needle.isEmpty && occursIn (padded needle.toList) (padded haystack.toList)

/-- Replaces a phrase wherever it stands between spaces. The space behind a replaced occurrence is
used up, so an occurrence that follows at once stays. -/
def substitutePhrase (phrase old new : String) : String :=
  String.ofList
    (stripChars (replaceAll (padded old.toList) (padded new.toList) (padded phrase.toList)))

end Shortlist.Text
