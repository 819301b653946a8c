import Shortlist.Decimal.Layout

/-! # Moments

A moment is what a clock shows, to the microsecond, with the distance of that clock from universal
time if it is known. Years run from 1 to 9999 in the Gregorian calendar.
-/

namespace Shortlist

structure Moment where
  /-- Microseconds shown by the clock since the beginning of the year 1. -/
  clock : Int
  /-- Seconds by which the clock is ahead of universal time; none for a clock without zone. -/
  offset : Option Int
deriving DecidableEq, Repr

namespace Moment

def perSecond : Int := 1000000

def secondsPerDay : Int := 86400

def isLeapYear (y : Nat) : Bool := y % 4 == 0 && (y % 100 != 0 || y % 400 == 0)

def daysInMonth (y m : Nat) : Nat :=
  if m = 2 then if isLeapYear y then 29 else 28
  else if m = 4 || m = 6 || m = 9 || m = 11 then 30
  else 31

/-- Days from the beginning of the year 1 to the beginning of a year. -/
def daysBeforeYear (y : Nat) : Nat := (y - 1) * 365 + (y - 1) / 4 - (y - 1) / 100 + (y - 1) / 400

def daysBeforeMonth (y m : Nat) : Nat :=
  (List.range (m - 1)).foldl (fun days k => days + daysInMonth y (k + 1)) 0

def daysBefore (y m d : Nat) : Nat := daysBeforeYear y + daysBeforeMonth y m + (d - 1)

/-- The clock at a date and a time of day in microseconds. -/
def clockAt (y m d : Nat) (microseconds : Nat) : Int :=
  (daysBefore y m d : Int) * secondsPerDay * perSecond + microseconds

def yearOf (day : Nat) : Nat :=
  let guess := day / 366 + 1
  ((List.range 30).map (guess + ·)).foldl
    (fun y candidate => if daysBeforeYear candidate ≤ day then candidate else y) guess

/-- The month that the `k`-th day of a year belongs to. -/
def monthOf (y k : Nat) : Nat :=
  ((List.range 12).map (· + 1)).foldl
    (fun m candidate => if daysBeforeMonth y candidate ≤ k then candidate else m) 1

/-- Microseconds in universal time; a clock without zone counts as universal. -/
def instant (t : Moment) : Int := t.clock - t.offset.getD 0 * perSecond

def addSeconds (t : Moment) (seconds : Nat) : Moment :=
  { t with clock := t.clock + (seconds : Int) * perSecond }

/-- A number in decimal, filled with zeros to a width. -/
def field (width n : Nat) : String :=
  String.ofList (Decimal.padLeft width (Decimal.digitsOf n))

/-- The distance from universal time as hours and minutes, with seconds where there are any. -/
def offsetText (offset : Int) : String :=
  let seconds := offset.natAbs
  let sign := if offset < 0 then "-" else "+"
  let rest := if seconds % 60 = 0 then "" else ":" ++ field 2 (seconds % 60)
  sign ++ field 2 (seconds / 3600) ++ ":" ++ field 2 (seconds / 60 % 60) ++ rest

/-- Date and time of day with `separator` between them; microseconds only where there are any. -/
def clockText (separator : String) (t : Moment) : String :=
  let microseconds := t.clock.toNat
  let seconds := microseconds / 1000000
  let day := seconds / 86400
  let y := yearOf day
  let k := day - daysBeforeYear y
  let m := monthOf y k
  let fraction :=
    if microseconds % 1000000 = 0 then "" else "." ++ field 6 (microseconds % 1000000)
  field 4 y ++ "-" ++ field 2 m ++ "-" ++ field 2 (k - daysBeforeMonth y m + 1) ++ separator ++
    field 2 (seconds / 3600 % 24) ++ ":" ++ field 2 (seconds / 60 % 60) ++ ":" ++
    field 2 (seconds % 60) ++ fraction

def iso (t : Moment) : String := clockText "T" t ++ (t.offset.map offsetText).getD ""

/-- The ISO 8601 text of a moment, universal time as the letter Z. -/
def isoZulu (t : Moment) : String :=
  if t.offset = some 0 then clockText "T" t ++ "Z" else iso t

end Moment

end Shortlist
