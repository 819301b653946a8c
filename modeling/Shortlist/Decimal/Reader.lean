import Shortlist.Decimal.Binary

/-! # Reading decimals

The double nearest to a decimal. An exponent beyond the range of doubles is answered at once, so
that no power of ten is computed for it.
-/

namespace Shortlist.Decimal

def digit? (c : Char) : Option Nat :=
  if '0' ≤ c && c ≤ '9' then some (c.toNat - '0'.toNat) else none

def isDigit (c : Char) : Bool := (digit? c).isSome

/-- The number that decimal digits write, continuing from `value`. -/
def numberFrom (value : Nat) (digits : List Char) : Nat :=
  digits.foldl (fun n c => 10 * n + (digit? c).getD 0) value

def infinity : Float := 1.0 / 0.0

def notANumber : Float := 0.0 / 0.0

/-- The double nearest to `± m * 10 ^ exponent`; infinite beyond the range. -/
def toFloat (negative : Bool) (m : Nat) (exponent : Int) : Float :=
  let magnitude := (Nat.toDigits 10 m).length + exponent
  let absolute : Float :=
    if m = 0 || magnitude < -400 then 0.0
    else if 400 < magnitude then infinity
    else if exponent < 0 then Float.ofScientific m true exponent.natAbs
    else Float.ofScientific m false exponent.natAbs
  if negative then -absolute else absolute

/-- The double nearest to an integer, none beyond the range. -/
def ofInt? (n : Int) : Option Float :=
  let x := toFloat (n < 0) n.natAbs 0
  if isFinite x then some x else none

/-- A decimal number in parts: the digits before and after the point and the exponent. -/
structure Literal where
  whole : List Char
  fraction : List Char
  exponent : Int

def Literal.toFloat (negative : Bool) (l : Literal) : Float :=
  Decimal.toFloat negative (numberFrom (numberFrom 0 l.whole) l.fraction)
    (l.exponent - l.fraction.length)

/-- An optional sign in front of a number, and whether it is a minus sign. -/
def signed (cs : List Char) : Bool × List Char :=
  match cs with
  | '-' :: rest => (true, rest)
  | '+' :: rest => (false, rest)
  | rest => (false, rest)

/-- The exponent that ends a decimal: nothing, or a letter, a sign and digits. -/
def exponent? (cs : List Char) : Option Int :=
  match cs with
  | [] => some 0
  | e :: rest =>
    let (negative, digits) := signed rest
    if (e = 'e' || e = 'E') && !digits.isEmpty && digits.all isDigit then
      let n : Int := numberFrom 0 digits
      some (if negative then -n else n)
    else none

/-- A decimal without sign: digits with a point somewhere, and an exponent. -/
def Literal.ofChars? (cs : List Char) : Option Literal :=
  let whole := cs.takeWhile isDigit
  let (fraction, rest) :=
    match cs.dropWhile isDigit with
    | '.' :: rest => (rest.takeWhile isDigit, rest.dropWhile isDigit)
    | rest => ([], rest)
  if whole.isEmpty && fraction.isEmpty then none
  else (exponent? rest).map fun e => ⟨whole, fraction, e⟩

end Shortlist.Decimal
