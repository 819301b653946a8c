/-! # Occurrences of one text in another -/

namespace Shortlist.Text

/-- Whether `part` occurs somewhere in a text. -/
def occursIn (part : List Char) : List Char → Bool
  | [] => part.isEmpty
  | c :: cs => part.isPrefixOf (c :: cs) || occursIn part cs

/-- Replacement after `skip` characters that a replaced occurrence has used up. -/
def replaceFrom (old new : List Char) : Nat → List Char → List Char
  | _, [] => []
  | skip + 1, _ :: cs => replaceFrom old new skip cs
  | 0, c :: cs =>
    if old.isPrefixOf (c :: cs) then new ++ replaceFrom old new (old.length - 1) cs
    else c :: replaceFrom old new 0 cs

/-- Replaces the occurrences of a non-empty `old` from left to right. The search goes on behind a
replaced occurrence, so occurrences that overlap it stay. -/
def replaceAll (old new text : List Char) : List Char := replaceFrom old new 0 text

end Shortlist.Text
