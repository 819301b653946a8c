import Shortlist.Moment.Reader
import Shortlist.Text.Blank
import Shortlist.Text.Lowercase
import Shortlist.Validation.Basic

/-! # Scalars

Readings of single values. Numbers and truth values are read generously: from each other and from
texts that write them.
-/

namespace Shortlist.Validation

open Decimal

def text : Value → Validation String
  | .text s => .valid s
  | _ => defect .notText

def optionalText : Value → Validation (Option String)
  | .null => .valid none
  | v => (text v).map some

/-! ## Numbers -/

/-- The text without the underscores between its characters, if there are any to leave out. Two in a
row and those at the ends are not between characters. -/
def withoutUnderscores? (cs : List Char) : Option (List Char) :=
  let doubled := (cs.zip cs.tail).contains ('_', '_')
  if cs.head? = some '_' || cs.getLast? = some '_' || doubled then none
  else if cs.contains '_' then some (cs.filter (· ≠ '_'))
  else none

/-- A number without sign: a decimal, or one of the words for what is no finite number. -/
def magnitude? (negative : Bool) (cs : List Char) : Option Float :=
  let word := String.ofList (Text.lowerChars cs)
  if word = "inf" || word = "infinity" then some (if negative then -infinity else infinity)
  else if word = "nan" then some notANumber
  else (Literal.ofChars? cs).map (Literal.toFloat negative)

def decimal? (cs : List Char) : Option Float :=
  let (negative, rest) := signed cs
  magnitude? negative rest

/-- White space around a number. The separators from U+001C to U+001F do not count. -/
def isPadding (c : Char) : Bool := Text.isBlank c && !(0x1C ≤ c.toNat && c.toNat ≤ 0x1F)

def unpadded (cs : List Char) : List Char := Text.dropEndWhile isPadding (cs.dropWhile isPadding)

/-- A double: from a number, a truth value or a text. White space around a number may be left out,
and so may underscores inside it, but not both. An integer beyond the range is no double. -/
def float : Value → Validation Float
  | .float x => .valid x
  | .int n =>
    match ofInt? n with
    | some x => .valid x
    | none => defect .notNumber
  | .bool b => .valid (if b then 1.0 else 0.0)
  | .text s =>
    let cs := s.toList
    match (decimal? (unpadded cs)).orElse fun _ => (withoutUnderscores? cs).bind decimal? with
    | some x => .valid x
    | none => defect .unreadableNumber
  | _ => defect .notNumber

def wholeNumber? (x : Float) : Option Int :=
  (Binary.ofFloat x).fraction?.bind fun (num, den) =>
    if num % den = 0 then some (num / den) else none

/-! ### Integers in texts -/

def maxIntegerLength : Nat := 4300

/-- A digit that an integer can begin with. -/
def isLeadingDigit (c : Char) : Bool := isDigit c && c ≠ '0'

/-- The integer that a text writes without anything to spare: a minus sign if it is negative, and a
zero or digits that do not begin with one. -/
def plainInteger (cs : List Char) : Except Defect Int :=
  let (negative, unsigned) :=
    match cs with
    | '-' :: rest => (true, rest)
    | rest => (false, rest)
  let digits := unsigned.takeWhile isDigit
  if unsigned = ['0'] then .ok 0
  else if !(digits.head?.map isLeadingDigit).getD false then .error .unreadableInteger
  else if maxIntegerLength < digits.length + (cs.length - unsigned.length) then
    .error .oversizeInteger
  else if digits.length < unsigned.length then .error .unreadableInteger
  else
    let n : Int := numberFrom 0 digits
    .ok (if negative then -n else n)

/-- What follows zeros and underscores, of which `last` was the last. Where nothing is left to begin
a number with, `last` stays. -/
def pastZeros (last : Char) : List Char → Option (List Char)
  | [] => some [last]
  | c :: rest =>
    if c = '0' || c = '_' then pastZeros c rest
    else if c = '-' || isLeadingDigit c then some (c :: rest)
    else if c = '.' then some (last :: c :: rest)
    else none

/-- The text of an integer without zeros in front; none where it does not begin with a digit. -/
def withoutLeadingZeros? : List Char → Option (List Char)
  | [] => none
  | c :: rest =>
    if c = '0' then pastZeros c rest
    else if isLeadingDigit c then some (c :: rest)
    else none

/-- The text without a plus sign or zeros in front. A minus sign before the zeros stays. -/
def withoutSpareFront? : List Char → Option (List Char)
  | '-' :: rest => (withoutLeadingZeros? rest).map ('-' :: ·)
  | '+' :: rest => withoutLeadingZeros? rest
  | cs => withoutLeadingZeros? cs

def withoutZeroFraction (cs : List Char) : List Char :=
  let fraction := (cs.dropWhile (· ≠ '.')).tail
  if !fraction.isEmpty && fraction.all (· = '0') then cs.takeWhile (· ≠ '.') else cs

/-- The text of an integer without what it has to spare: a plus sign, zeros in front, a fraction of
zeros, underscores. -/
def sparing? (cs : List Char) : Option (List Char) := do
  let whole := withoutZeroFraction (← withoutSpareFront? cs)
  some ((withoutUnderscores? whole).getD whole)

def integer (cs : List Char) : Except Defect Int :=
  match plainInteger cs with
  | .error .unreadableInteger =>
    match sparing? cs with
    | some ds => plainInteger ds
    | none => .error .unreadableInteger
  | outcome => outcome

/-- An integer: from a number without fraction, a truth value or a text. -/
def int : Value → Validation Int
  | .int n => .valid n
  | .bool b => .valid (if b then 1 else 0)
  | .float x =>
    match wholeNumber? x with
    | some n => if n.natAbs < Nat.pow 2 63 then .valid n else defect .oversizeInteger
    | none => defect (if isFinite x then .fractionalInteger else .infiniteInteger)
  | .text s =>
    match integer (unpadded s.toList) with
    | .ok n => .valid n
    | .error d => defect d
  | _ => defect .notInteger

/-! ### Bounds -/

/-- Bounds for a number. The upper one is looked at first, and what is no number fails it. -/
def bounded {ω : Type} [LE ω] [DecidableLE ω] (low high : ω) (x : ω) : Validation ω :=
  if x ≤ high then if low ≤ x then .valid x else defect .tooSmall else defect .tooLarge

def atLeast {ω : Type} [LE ω] [DecidableLE ω] (low : ω) (x : ω) : Validation ω :=
  if low ≤ x then .valid x else defect .tooSmall

/-! ## Truth values, moments, members -/

def truthWords : List (String × Bool) :=
  [("0", false), ("off", false), ("f", false), ("false", false), ("n", false), ("no", false),
    ("1", true), ("on", true), ("t", true), ("true", true), ("y", true), ("yes", true)]

def truth? (b : Option Bool) : Validation Bool :=
  match b with
  | some b => .valid b
  | none => defect .unreadableTruth

/-- The truth value that an integer of 64 bits writes; a larger one is no truth value at all. -/
def truthOfInt (n : Int) : Validation Bool :=
  if -Nat.pow 2 63 ≤ n && n < Nat.pow 2 63 then
    truth? (if n = 0 then some false else if n = 1 then some true else none)
  else defect .notTruth

/-- A truth value: also as zero or one, or as a word for it. -/
def bool : Value → Validation Bool
  | .bool b => .valid b
  | .int n => truthOfInt n
  | .float x =>
    match wholeNumber? x with
    | some n => if n.natAbs < Nat.pow 2 63 then truthOfInt n else defect .notTruth
    | none => defect .notTruth
  | .text s => truth? (truthWords.lookup (Text.lower s))
  | _ => defect .notTruth

/-- What is read as a moment; `otherwise` is reported where nothing is read. -/
def inCalendar (otherwise : Defect) : Option Moment → Validation Moment
  | some t =>
    match t.inCalendar? with
    | some t => .valid t
    | none => defect .momentOutOfRange
  | none => defect otherwise

/-- A moment: a text in ISO 8601, or a number of seconds. An integer beyond the range of doubles
counts no seconds. -/
def moment : Value → Validation Moment
  | .time t => .valid t
  | .text s => inCalendar .unreadableMoment (Moment.ofChars? s.toList)
  | .int n =>
    if (ofInt? n).isSome then inCalendar .momentOutOfRange (Moment.ofInt? n)
    else defect .notMoment
  | .float x => inCalendar .momentOutOfRange (Moment.ofFloat? x)
  | _ => defect .notMoment

/-- One of finitely many members, by its name. -/
def oneOf {α : Type} (members : List (String × α)) : Value → Validation α
  | .text s =>
    match members.lookup s with
    | some a => .valid a
    | none => defect .notMember
  | _ => defect .notMember

end Shortlist.Validation
