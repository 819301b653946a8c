/-! # Runs of case mappings

Letters of two cases mostly stand in runs of equally spaced code points that correspond to each
other. A table of runs in ascending order is a mapping of code points.
-/

namespace Shortlist.Text

/-- The code points `first`, `first + step`, …, `last`, which are mapped to code points that begin
at `image` and are spaced alike. -/
structure CaseRun where
  first : Nat
  last : Nat
  step : Nat
  image : Nat

/-- What a code point is mapped to, if some run lists it. -/
def CaseRun.image? : List CaseRun → Nat → Option Nat
  | [], _ => none
  | r :: rest, n =>
    if n < r.first then none
    else if n ≤ r.last && (n - r.first) % r.step == 0 then some (r.image + (n - r.first))
    else image? rest n

/-- What a character is mapped to, the character itself if no run lists it. -/
def CaseRun.map (runs : List CaseRun) (c : Char) : Char :=
  ((image? runs c.toNat).map Char.ofNat).getD c

end Shortlist.Text
