import Shortlist.Decimal.Shortest

/-! # Layout of numbers

How a double is written: which decimals are positional, how an exponent looks, and the words for
what is no finite number. The digits are always the shortest that read back.
-/

namespace Shortlist.Decimal

/-- The choices left open by the digits. -/
structure Layout where
  /-- Decimals whose first digit stands at an exponent below this one have an exponent. -/
  positionalFrom : Int
  /-- So have decimals whose first digit stands at this exponent or above. -/
  positionalBelow : Int
  /-- Exponents are filled with zeros to this width. -/
  exponentWidth : Nat
  infinity : String
  nan : String

def padLeft (width : Nat) (digits : List Char) : List Char :=
  List.replicate (width - digits.length) '0' ++ digits

def digitsOf (n : Nat) : List Char := Nat.toDigits 10 n

/-- A decimal whose point stands `point` places after its first digit; a fraction is never left
out. -/
def positional (digits : List Char) (point : Int) : List Char :=
  if point ≤ 0 then '0' :: '.' :: (List.replicate (-point).toNat '0' ++ digits)
  else
    let whole := point.toNat
    if digits.length ≤ whole then
      digits ++ List.replicate (whole - digits.length) '0' ++ ['.', '0']
    else digits.take whole ++ '.' :: digits.drop whole

/-- One digit, the others behind a point, and the exponent with its sign. -/
def Layout.withExponent (l : Layout) (digits : List Char) (exponent : Int) : List Char :=
  let mantissa :=
    match digits with
    | [] => []
    | [d] => [d]
    | d :: ds => d :: '.' :: ds
  let sign := if exponent < 0 then '-' else '+'
  mantissa ++ 'e' :: sign :: padLeft l.exponentWidth (digitsOf exponent.natAbs)

def Layout.writeScientific (l : Layout) (x : Scientific) : List Char :=
  let digits := digitsOf x.digits
  let exponent := x.exponent + digits.length - 1
  if x.digits = 0 then ['0', '.', '0']
  else if l.positionalFrom ≤ exponent && exponent < l.positionalBelow then
    positional digits (exponent + 1)
  else l.withExponent digits exponent

def Layout.write (l : Layout) (x : Float) : String :=
  match Binary.ofFloat x with
  | .nan => l.nan
  | .infinite negative => if negative then "-" ++ l.infinity else l.infinity
  | .finite negative m q =>
    let text := l.writeScientific (shortest m q)
    String.ofList (if negative then '-' :: text else text)

end Shortlist.Decimal
