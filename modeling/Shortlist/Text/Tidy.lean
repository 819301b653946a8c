import Shortlist.Text.Blank

/-! # Tidy text

Text taken from a file keeps its lines, but runs of spaces become one space, and neither blank lines
nor spaces at the ends of lines remain.
-/

namespace Shortlist.Text

def isLineSpace (c : Char) : Bool :=
  c = ' ' || c = '\t' || c = '\r' || c = '\x0c' || c = '\x0b' || c = '\u00a0'

/-- One space for every run of line spaces. `inRun` tells that such a run has begun. -/
def oneSpace : (inRun : Bool) → List Char → List Char
  | _, [] => []
  | inRun, c :: cs =>
    if isLineSpace c then if inRun then oneSpace true cs else ' ' :: oneSpace true cs
    else c :: oneSpace false cs

/-- One line feed for every run of spaces and line feeds that holds a line feed, where spaces stand
alone. `afterBreak` tells that such a run has begun. -/
def oneBreak : (afterBreak : Bool) → List Char → List Char
  | _, [] => []
  | afterBreak, c :: cs =>
    if c = '\n' then if afterBreak then oneBreak true cs else '\n' :: oneBreak true cs
    else if c = ' ' && (afterBreak || cs.head? = some '\n') then oneBreak afterBreak cs
    else c :: oneBreak false cs

def tidyChars (cs : List Char) : List Char := stripChars (oneBreak false (oneSpace false cs))

def tidy (s : String) : String := String.ofList (tidyChars s.toList)

end Shortlist.Text
