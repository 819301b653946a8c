import Shortlist.Decimal.Layout

/-! # Fixed places

Rounding of a double to a number of decimal places. The exact value is rounded, and a tie goes to
the even neighbour.
-/

namespace Shortlist.Decimal

/-- The quotient rounded to the nearest integer, a tie to the even one. -/
def roundDiv (num den : Nat) : Nat :=
  let quotient := num / den
  let twice := 2 * (num % den)
  if twice < den then quotient
  else if den < twice then quotient + 1
  else if quotient % 2 = 0 then quotient
  else quotient + 1

/-- `m * 2 ^ q` in units of the last of `places` decimal places. -/
def roundedUnits (places m : Nat) (q : Int) : Nat :=
  roundDiv (m * Nat.pow 10 places * Nat.pow 2 q.toNat) (Nat.pow 2 (-q).toNat)

/-- A double rounded to `places` decimal places, in units of the last place. What is no finite
number has no such units and counts as zero. -/
def signedUnits (places : Nat) (x : Float) : Int :=
  match Binary.ofFloat x with
  | .finite negative m q =>
    let units : Int := roundedUnits places m q
    if negative then -units else units
  | _ => 0

def writeUnits (places units : Nat) : List Char :=
  let digits := padLeft (places + 1) (digitsOf units)
  if places = 0 then digits
  else digits.take (digits.length - places) ++ '.' :: digits.drop (digits.length - places)

/-- The text of a double with exactly `places` decimal places. The sign of a negative value stays
when all its digits vanish. -/
def writeFixed (places : Nat) (x : Float) : String :=
  match Binary.ofFloat x with
  | .nan => "nan"
  | .infinite negative => if negative then "-inf" else "inf"
  | .finite negative m q =>
    let text := writeUnits places (roundedUnits places m q)
    String.ofList (if negative then '-' :: text else text)

/-- The double nearest to the value rounded to `places` decimal places. -/
def roundTo (places : Nat) (x : Float) : Float :=
  match Binary.ofFloat x with
  | .finite negative m q =>
    let rounded := Float.ofScientific (roundedUnits places m q) true places
    if negative then -rounded else rounded
  | _ => x

end Shortlist.Decimal
