import Shortlist.Decimal.Reader
import Shortlist.Moment.Basic

/-! # Reading moments

ISO 8601 date-times: a date, a separator, hours and minutes, then seconds, a fraction and a zone if
present. A date alone means its midnight, and a number means seconds or milliseconds since 1970.
What is read may lie in the year 0. Its clock is negative then, and it is no moment.
-/

namespace Shortlist.Moment

open Decimal

/-- A number of exactly `width` digits in front of a text. -/
def digits? (width : Nat) (cs : List Char) : Option (Nat × List Char) :=
  let ds := cs.take width
  if ds.length = width && ds.all isDigit then some (numberFrom 0 ds, cs.drop width) else none

def char? (p : Char → Bool) : List Char → Option (List Char)
  | c :: cs => if p c then some cs else none
  | [] => none

def date? (cs : List Char) : Option ((Nat × Nat × Nat) × List Char) := do
  let (y, cs) ← digits? 4 cs
  let cs ← char? (· = '-') cs
  let (m, cs) ← digits? 2 cs
  let cs ← char? (· = '-') cs
  let (d, cs) ← digits? 2 cs
  if 1 ≤ m && m ≤ 12 && 1 ≤ d && d ≤ daysInMonth y m then some ((y, m, d), cs) else none

/-- The microseconds that a fraction's digits mean; further digits are cut off. -/
def fractionMicroseconds (ds : List Char) : Nat :=
  let kept := ds.take 6
  numberFrom 0 kept * Nat.pow 10 (6 - kept.length)

/-- Seconds, if present, in microseconds. -/
def seconds? (cs : List Char) : Option (Nat × List Char) :=
  match cs with
  | ':' :: cs => do
    let (s, cs) ← digits? 2 cs
    if 59 < s then none
    else
      match cs with
      | c :: cs =>
        if c = '.' || c = ',' then
          let ds := cs.takeWhile isDigit
          if ds.isEmpty then none
          else some (s * 1000000 + fractionMicroseconds ds, cs.dropWhile isDigit)
        else some (s * 1000000, c :: cs)
      | [] => some (s * 1000000, [])
  | _ => some (0, cs)

/-- The time of day in microseconds. -/
def time? (cs : List Char) : Option (Nat × List Char) := do
  let (h, cs) ← digits? 2 cs
  let cs ← char? (· = ':') cs
  let (m, cs) ← digits? 2 cs
  let (rest, cs) ← seconds? cs
  if h ≤ 23 && m ≤ 59 then some ((h * 3600 + m * 60) * 1000000 + rest, cs) else none

/-- The zone, which has to end the text. -/
def zone? (cs : List Char) : Option (Option Int) :=
  match cs with
  | [] => some none
  | [c] => if c = 'Z' || c = 'z' then some (some 0) else none
  | sign :: cs => do
    let negative := sign = '-' || sign = '−'
    if !negative && sign ≠ '+' then none
    let (h, cs) ← digits? 2 cs
    let (m, cs) ← digits? 2 ((char? (· = ':') cs).getD cs)
    if cs.isEmpty && h ≤ 23 && m ≤ 59 then
      let seconds : Int := h * 3600 + m * 60
      some (some (if negative then -seconds else seconds))
    else none

/-- The clock at a date in the years from 0. The year 0 is a leap year, as the year 4 is. -/
def clockOf (y m d microseconds : Nat) : Int :=
  if y = 0 then clockAt 4 m d microseconds - clockAt 5 1 1 0 else clockAt y m d microseconds

def isSeparator (c : Char) : Bool := c = 'T' || c = 't' || c = ' ' || c = '_'

def dateTime? (cs : List Char) : Option Moment := do
  let ((y, m, d), cs) ← date? cs
  let cs ← char? isSeparator cs
  let (microseconds, cs) ← time? cs
  let offset ← zone? cs
  some ⟨clockOf y m d microseconds, offset⟩

def epoch : Int := clockAt 1970 1 1 0

/-- Beyond this number a number does not count seconds but milliseconds. -/
def largestSeconds : Nat := 20000000000

/-- What lies some microseconds after the beginning of 1970, in the years from 0 to 9999. -/
def sinceEpoch? (microseconds : Int) : Option Moment :=
  let clock := epoch + microseconds
  if clockOf 0 1 1 0 ≤ clock && clock < clockAt 10000 1 1 0 then some ⟨clock, some 0⟩ else none

def ofInt? (n : Int) : Option Moment :=
  sinceEpoch? (if largestSeconds < n.natAbs then n * 1000 else n * perSecond)

/-- What a double stands for, to the nearest microsecond. The microseconds are counted from what the
whole seconds leave of it: a quotient in seconds would no longer tell them all apart. -/
def ofFloat? (x : Float) : Option Moment :=
  let unit : Float := if largestSeconds.toFloat < x.abs then 1000.0 else 1.0
  let whole := (x / unit).floor
  if whole.abs < 1e15 then
    let microseconds := ((x - whole * unit) * (1e6 / unit)).round.toUInt64.toNat
    sinceEpoch? (whole.toInt64.toInt * perSecond + microseconds)
  else none

/-- What a number in a text stands for: an integer, or a decimal with a point. -/
def ofDecimal? (cs : List Char) : Option Moment :=
  let (negative, unsigned) := signed cs
  let whole := unsigned.takeWhile isDigit
  match unsigned.dropWhile isDigit with
  | [] =>
    let n : Int := numberFrom 0 whole
    if whole.isEmpty then none else ofInt? (if negative then -n else n)
  | '.' :: _ => (Literal.ofChars? unsigned).bind fun l => ofFloat? (l.toFloat negative)
  | _ => none

def midnight? (cs : List Char) : Option Moment := do
  let ((y, m, d), rest) ← date? cs
  if rest.isEmpty then some ⟨clockOf y m d 0, none⟩ else none

def ofChars? (cs : List Char) : Option Moment :=
  (dateTime? cs).orElse fun _ =>
    (ofDecimal? cs).orElse fun _ => midnight? cs

/-- What is read, if it is a moment. -/
def inCalendar? (t : Moment) : Option Moment := if 0 ≤ t.clock then some t else none

def ofString? (s : String) : Option Moment := (ofChars? s.toList).bind inCalendar?

end Shortlist.Moment
