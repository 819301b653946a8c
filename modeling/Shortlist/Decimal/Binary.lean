/-! # Doubles as exact numbers

A finite double is `m * 2 ^ q` with a sign. Printing and rounding work on that number, in integers.
-/

namespace Shortlist.Decimal

inductive Binary where
  | nan
  | infinite (negative : Bool)
  | finite (negative : Bool) (m : Nat) (q : Int)

/-- The number behind a double: one sign bit, eleven bits of exponent, 52 bits of fraction. -/
def Binary.ofFloat (x : Float) : Binary :=
  let bits := x.toBits.toNat
  let negative := bits / Nat.pow 2 63 == 1
  let exponent : Nat := bits / Nat.pow 2 52 % Nat.pow 2 11
  let fraction := bits % Nat.pow 2 52
  if exponent = 2047 then if fraction = 0 then .infinite negative else .nan
  else if exponent = 0 then .finite negative fraction (-1074)
  else .finite negative (Nat.pow 2 52 + fraction) ((exponent : Int) - 1075)

def Binary.fraction? : Binary → Option (Int × Nat)
  | .finite negative m q =>
    let n : Int := m * Nat.pow 2 q.toNat
    some (if negative then -n else n, Nat.pow 2 (-q).toNat)
  | _ => none

/-- Whether an integer is below a double. The two are compared as they are, without rounding; what
is no number is neither above nor below. -/
def intBelow (n : Int) (x : Float) : Bool :=
  match Binary.ofFloat x with
  | .infinite negative => !negative
  | b => (b.fraction?.map fun (num, den) => decide (n * den < num)).getD false

def intAbove (n : Int) (x : Float) : Bool :=
  match Binary.ofFloat x with
  | .infinite negative => negative
  | b => (b.fraction?.map fun (num, den) => decide (num < n * den)).getD false

def isFinite (x : Float) : Bool :=
  match Binary.ofFloat x with
  | .finite .. => true
  | _ => false

end Shortlist.Decimal
