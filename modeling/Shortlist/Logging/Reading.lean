import Shortlist.Decimal.Fixed
import Shortlist.Decimal.Reader
import Shortlist.Failure.Basic

/-! # Clock readings

Readings of a clock, and time spans between them: whole numbers or doubles. Whole numbers are kept
and compared as they are. To be shown with decimal places, or subtracted from a double, they have to
be in the range of doubles.
-/

namespace Shortlist

inductive Reading where
  | whole (n : Int)
  | real (x : Float)

namespace Reading

def tooLarge : Fault := .foreign .overflow "int too large to convert to float"

def toFloat : Reading → Except Fault Float
  | .whole n =>
    match Decimal.ofInt? n with
    | some x => .ok x
    | none => .error tooLarge
  | .real x => .ok x

def sub : Reading → Reading → Except Fault Reading
  | .whole a, .whole b => .ok (.whole (a - b))
  | a, b => do .ok (.real ((← a.toFloat) - (← b.toFloat)))

def milliseconds : Reading → Reading
  | .whole n => .whole (n * 1000)
  | .real x => .real (x * 1000.0)

def exceeds : Reading → Reading → Bool
  | .whole a, .whole b => b < a
  | .whole a, .real y => Decimal.intAbove a y
  | .real x, .whole b => Decimal.intBelow b x
  | .real x, .real y => y < x

def toValue : Reading → Value
  | .whole n => .int n
  | .real x => .float x

/-- The reading that a value stands for; truth values count as zero and one. -/
def ofValue? : Value → Option Reading
  | .bool b => some (.whole (if b then 1 else 0))
  | .int n => some (.whole n)
  | .float x => some (.real x)
  | _ => none

def fixed (places : Nat) (r : Reading) : Except Fault String :=
  (Decimal.writeFixed places) <$> r.toFloat

/-- The seconds between two readings of a clock, which have to be numbers. -/
def between (start stop : Value) : Except Fault Reading :=
  match ofValue? stop, ofValue? start with
  | some b, some a => b.sub a
  | _, _ => .error (.foreign .type (Value.mismatch "unsupported operand type(s) for -:" stop start))

/-- Whether a time span is longer than a limit, which has to be a number. -/
def passes (r : Reading) (limit : Value) : Except Fault Bool :=
  match ofValue? limit with
  | some l => .ok (r.exceeds l)
  | none =>
    .error <| .foreign .type <|
      Value.mismatch "'>' not supported between instances of" r.toValue limit

end Reading

end Shortlist
