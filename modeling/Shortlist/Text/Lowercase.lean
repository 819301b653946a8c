import Shortlist.Text.CaseTable

/-! # Lower case

Full lower-casing. Two capitals need more than a one-character mapping: the dotted capital I becomes
two characters, and a capital sigma takes its final form after a cased character when none follows.
-/

namespace Shortlist.Text

/-- The small letter of a character, the character itself where it has none. -/
def lowerChar (c : Char) : Char := CaseRun.map smallRuns c

def isCased (c : Char) : Bool := casedRanges.contains c.toNat

def isCaseIgnorable (c : Char) : Bool := caseIgnorableRanges.contains c.toNat

/-- Whether the first character that counts is cased. -/
def casedAhead : List Char → Bool
  | [] => false
  | c :: cs => if isCaseIgnorable c then casedAhead cs else isCased c

/-- What one character becomes, between a left context that ends cased or not and the characters
that follow. -/
def lowerOne (casedBefore : Bool) (c : Char) (rest : List Char) : List Char :=
  if c = 'Σ' then [if casedBefore && !casedAhead rest then 'ς' else 'σ']
  else if c = 'İ' then ['i', '\u0307']
  else [lowerChar c]

/-- Lower-casing after a left context that ends cased or not. -/
def lowerFrom : Bool → List Char → List Char
  | _, [] => []
  | casedBefore, c :: cs =>
    lowerOne casedBefore c cs ++
      lowerFrom (if isCaseIgnorable c then casedBefore else isCased c) cs

def lowerChars (cs : List Char) : List Char := lowerFrom false cs

def lower (s : String) : String := String.ofList (lowerChars s.toList)

end Shortlist.Text
