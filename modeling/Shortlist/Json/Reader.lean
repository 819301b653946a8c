import Shortlist.Decimal.Reader
import Shortlist.Value.Basic

/-! # Reading JSON

A reader for JSON texts that also takes `NaN`, `Infinity` and `-Infinity`, as text-generation
services write them. Where a text is not JSON, the reader tells the position at which it gave up. Of
the fields with one name in an object the last counts.

There is one limit. Texts consist of characters, and half of a surrogate pair is none: it is read as
U+FFFD. Of the two readers that this one stands for, the lenient one keeps the code unit, and the
strict one, which has the first try at a reply, refuses it.
-/

namespace Shortlist.Json

open Decimal

inductive Reason where
  /-- The text is not JSON. -/
  | malformed
  /-- An integer has more digits than are read. -/
  | integerTooLong (digits : Nat)
  /-- Lists and objects are nested too deeply; the innermost is a list or not. -/
  | tooDeep (inList : Bool)

/-- Where reading stopped, as the number of characters left. -/
structure Stuck where
  left : Nat
  reason : Reason

/-- A reading of the beginning of a text. -/
abbrev Step (α : Type) := Except Stuck (α × List Char)

def stuckAt {α : Type} (rest : List Char) : Step α := .error ⟨rest.length, .malformed⟩

def isSpace (c : Char) : Bool := c = ' ' || c = '\t' || c = '\n' || c = '\r'

def skipSpace (cs : List Char) : List Char := cs.dropWhile isSpace

def maxIntegerDigits : Nat := 4300

def maxDepth : Nat := 980

def Reason.message : Reason → String
  | .malformed => "the text is not JSON"
  | .integerTooLong digits =>
    "Exceeds the limit (" ++ toString maxIntegerDigits ++
      " digits) for integer string conversion: value has " ++ toString digits ++
      " digits; use sys.set_int_max_str_digits() to increase the limit"
  | .tooDeep inList =>
    "maximum recursion depth exceeded while decoding a JSON " ++
      (if inList then "array" else "object") ++ " from a unicode string"

/-! ## Numbers -/

/-- The digits of an exponent; without digits there is no exponent. -/
def exponent? (cs : List Char) : Option (Int × List Char) :=
  match cs with
  | e :: cs =>
    if e = 'e' || e = 'E' then
      let (negative, ds) :=
        match cs with
        | '-' :: ds => (true, ds)
        | '+' :: ds => (false, ds)
        | ds => (false, ds)
      let digits := ds.takeWhile isDigit
      if digits.isEmpty then none
      else
        let n : Int := numberFrom 0 digits
        some (if negative then -n else n, ds.dropWhile isDigit)
    else none
  | [] => none

/-- The digits behind a point; without digits there is no fraction. -/
def fraction? (cs : List Char) : Option (List Char × List Char) :=
  match cs with
  | '.' :: ds =>
    let digits := ds.takeWhile isDigit
    if digits.isEmpty then none else some (digits, ds.dropWhile isDigit)
  | _ => none

/-- The whole part of a number: a zero, or digits that do not begin with one. -/
def whole? (cs : List Char) : Option (List Char × List Char) :=
  match cs with
  | '0' :: rest => some (['0'], rest)
  | c :: _ => if isDigit c then some (cs.takeWhile isDigit, cs.dropWhile isDigit) else none
  | [] => none

def numberAfter (negative : Bool) (whole rest : List Char) : Step Value :=
  let fraction := fraction? rest
  let afterFraction := (fraction.map Prod.snd).getD rest
  let exponent := exponent? afterFraction
  if fraction.isNone && exponent.isNone then
    if maxIntegerDigits < whole.length then
      .error ⟨rest.length, .integerTooLong whole.length⟩
    else
      let n : Int := numberFrom 0 whole
      .ok (.int (if negative then -n else n), rest)
  else
    let literal : Literal :=
      ⟨whole, (fraction.map Prod.fst).getD [], (exponent.map Prod.fst).getD 0⟩
    .ok (.float (literal.toFloat negative), (exponent.map Prod.snd).getD afterFraction)

def number (cs : List Char) : Step Value :=
  let (negative, unsigned) :=
    match cs with
    | '-' :: rest => (true, rest)
    | rest => (false, rest)
  match whole? unsigned with
  | some (whole, rest) => numberAfter negative whole rest
  | none => stuckAt cs

/-! ## Strings -/

def hexDigit? (c : Char) : Option Nat :=
  if '0' ≤ c && c ≤ '9' then some (c.toNat - '0'.toNat)
  else if 'a' ≤ c && c ≤ 'f' then some (c.toNat - 'a'.toNat + 10)
  else if 'A' ≤ c && c ≤ 'F' then some (c.toNat - 'A'.toNat + 10)
  else none

def hex4? (a b c d : Char) : Option Nat := do
  some (((← hexDigit? a) * 16 + (← hexDigit? b)) * 256 + ((← hexDigit? c) * 16 + (← hexDigit? d)))

def isHighSurrogate (n : Nat) : Bool := 0xD800 ≤ n && n ≤ 0xDBFF

def isLowSurrogate (n : Nat) : Bool := 0xDC00 ≤ n && n ≤ 0xDFFF

/-- The character of a code unit; half of a surrogate pair alone stands for nothing. -/
def unitChar (n : Nat) : Char :=
  if isHighSurrogate n || isLowSurrogate n then '\ufffd' else Char.ofNat n

def pairChar (high low : Nat) : Char :=
  Char.ofNat (0x10000 + (high - 0xD800) * 0x400 + (low - 0xDC00))

def escaped? (c : Char) : Option Char :=
  if c = '"' || c = '\\' || c = '/' then some c
  else if c = 'b' then some '\x08'
  else if c = 'f' then some '\x0c'
  else if c = 'n' then some '\n'
  else if c = 'r' then some '\r'
  else if c = 't' then some '\t'
  else none

/-- A string behind its opening quote. `opening` is what was left at that quote, and `high` is the
first half of a surrogate pair that was just read. -/
def stringFrom (opening : List Char) (high : Option Nat) : List Char → Step (List Char)
  | [] => stuckAt opening
  | '\\' :: 'u' :: a :: b :: c :: d :: next :: rest =>
    match hex4? a b c d with
    | none => stuckAt ('u' :: a :: b :: c :: d :: next :: rest)
    | some n =>
      match high with
      | some h =>
        if isLowSurrogate n then
          (stringFrom opening none (next :: rest)).map fun (cs, r) => (pairChar h n :: cs, r)
        else
          let held := if isHighSurrogate n then some n else none
          (stringFrom opening held (next :: rest)).map fun (cs, r) =>
            (unitChar h :: if held.isSome then cs else unitChar n :: cs, r)
      | none =>
        let held := if isHighSurrogate n then some n else none
        (stringFrom opening held (next :: rest)).map fun (cs, r) =>
          (if held.isSome then cs else unitChar n :: cs, r)
  | ['\\'] => stuckAt opening
  | '\\' :: e :: rest =>
    match escaped? e with
    | some c =>
      (stringFrom opening none rest).map fun (cs, r) => ((high.map unitChar).toList ++ c :: cs, r)
    | none => stuckAt (if e = 'u' then e :: rest else '\\' :: e :: rest)
  | c :: rest =>
    if c = '"' then .ok ((high.map unitChar).toList, rest)
    else if c.toNat ≤ 0x1F then stuckAt (c :: rest)
    else
      (stringFrom opening none rest).map fun (cs, r) => ((high.map unitChar).toList ++ c :: cs, r)

def string (cs : List Char) : Step String :=
  (stringFrom ('"' :: cs) none cs).map fun (s, rest) => (String.ofList s, rest)

/-! ## Values -/

def constants : List (List Char × Value) :=
  [("null".toList, .null), ("true".toList, .bool true), ("false".toList, .bool false),
    ("NaN".toList, .float notANumber), ("Infinity".toList, .float infinity),
    ("-Infinity".toList, .float (-infinity))]

def constant? (cs : List Char) : Option (Value × List Char) :=
  (constants.find? (·.1.isPrefixOf cs)).map fun (word, v) => (v, cs.drop word.length)

mutual

/-- A value in front of a text, inside of which lists and objects may be nested `depth` levels deep.
Two units of fuel for every character are enough. -/
def value : (fuel depth : Nat) → List Char → Except Stuck (Value × List Char)
  | 0, _, cs => stuckAt cs
  | fuel + 1, depth, cs =>
    match cs with
    | '"' :: rest => do
      let (s, r) ← string rest
      .ok (.text s, r)
    | '\x7b' :: rest =>
      if depth = 0 then .error ⟨cs.length, .tooDeep false⟩
      else
        match skipSpace rest with
        | '\x7d' :: r => .ok (.record [], r)
        | r => do
          let (fields, r) ← members fuel (depth - 1) [] r
          .ok (.record fields, r)
    | '[' :: rest =>
      if depth = 0 then .error ⟨cs.length, .tooDeep true⟩
      else
        match skipSpace rest with
        | ']' :: r => .ok (.list [], r)
        | r => do
          let (vs, r) ← items fuel (depth - 1) r
          .ok (.list vs, r)
    | _ =>
      match constant? cs with
      | some found => .ok found
      | none => number cs

def items : (fuel depth : Nat) → List Char → Except Stuck (List Value × List Char)
  | 0, _, cs => stuckAt cs
  | fuel + 1, depth, cs => do
    let (v, rest) ← value fuel depth cs
    match skipSpace rest with
    | ']' :: r => .ok ([v], r)
    | ',' :: r => do
      let (vs, r) ← items fuel depth (skipSpace r)
      .ok (v :: vs, r)
    | r => stuckAt r

/-- The fields of an object up to its closing brace, added to those already read. -/
def members : (fuel depth : Nat) → Fields → List Char → Except Stuck (Fields × List Char)
  | 0, _, _, cs => stuckAt cs
  | fuel + 1, depth, fields, cs =>
    match cs with
    | '"' :: cs => do
      let (name, rest) ← string cs
      match skipSpace rest with
      | ':' :: rest => do
        let (v, rest) ← value fuel depth (skipSpace rest)
        match skipSpace rest with
        | '\x7d' :: r => .ok (fields.set name v, r)
        | ',' :: r => members fuel depth (fields.set name v) (skipSpace r)
        | r => stuckAt r
      | r => stuckAt r
    | cs => stuckAt cs

end

/-- Why and where a text is not JSON. -/
structure Error where
  position : Nat
  reason : Reason

def readChars (cs : List Char) : Except Error Value :=
  let located (stuck : Stuck) : Error := ⟨cs.length - stuck.left, stuck.reason⟩
  match value (2 * cs.length + 2) maxDepth (skipSpace cs) with
  | .error stuck => .error (located stuck)
  | .ok (v, rest) =>
    match skipSpace rest with
    | [] => .ok v
    | r => .error (located ⟨r.length, .malformed⟩)

/-- The value of a JSON text. A byte-order mark in front of it is not read over. -/
def read (s : String) : Except Error Value := readChars s.toList

end Shortlist.Json
