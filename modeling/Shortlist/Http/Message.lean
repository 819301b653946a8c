import Shortlist.Candidate.Upload
import Shortlist.Text.Lowercase

/-! # HTTP messages

A request with a decoded target, and a response. Names of headers are compared without regard to
case, and of several headers of one name the first counts.
-/

namespace Shortlist

inductive RequestBody where
  | none
  | json (v : Value)
  /-- A text that is said to be JSON. -/
  | raw (text : String)
  /-- The files of a form by the names of their fields. -/
  | form (files : List (String × Upload))

/-- Whether a body is a text as a whole; forms are if all their files are. -/
def RequestBody.isText : RequestBody → Bool
  | .form files => files.all fun (_, file) => (String.fromUTF8? ⟨file.octets.toArray⟩).isSome
  | _ => true

structure HttpRequest where
  method : String
  /-- Path and query as sent. -/
  target : String
  headers : List (String × String)
  body : RequestBody

inductive ResponseBody where
  | json (v : Value)
  | text (s : String)

structure HttpResponse where
  status : Nat
  contentType : Option String
  requestId : Option String
  processingTime : Option String
  body : ResponseBody

namespace HttpResponse

def json (status : Nat) (v : Value) : HttpResponse :=
  ⟨status, some "application/json", none, none, .json v⟩

def text (contentType s : String) : HttpResponse := ⟨200, some contentType, none, none, .text s⟩

def bare (status : Nat) : HttpResponse := ⟨status, none, none, none, .text ""⟩

def problem (status : Nat) (detail : Value) : HttpResponse :=
  json status (.record [("detail", detail)])

end HttpResponse

namespace Http

/-! ## Percent-encoding -/

def hexValue? (c : Char) : Option Nat :=
  if '0' ≤ c && c ≤ '9' then some (c.toNat - '0'.toNat)
  else if 'a' ≤ c && c ≤ 'f' then some (c.toNat - 'a'.toNat + 10)
  else if 'A' ≤ c && c ≤ 'F' then some (c.toNat - 'A'.toNat + 10)
  else none

/-- The octets of a percent-encoded text. A percent sign without two hexadecimal digits stands for
itself. -/
def octets : List Char → List UInt8
  | [] => []
  | '%' :: a :: b :: rest =>
    match hexValue? a, hexValue? b with
    | some x, some y => UInt8.ofNat (16 * x + y) :: octets rest
    | _, _ => '%'.toUInt8 :: octets (a :: b :: rest)
  | c :: rest => (String.singleton c).toUTF8.toList ++ octets rest

def unescape (cs : List Char) : String := Text.Utf8.decodeMarked (octets cs)

/-! ## Targets -/

/-- The parts of a target before and after the first question mark; a fragment is left out. -/
def splitTarget (target : String) : List Char × List Char :=
  let cs := target.toList.takeWhile (· ≠ '#')
  (cs.takeWhile (· ≠ '?'), (cs.dropWhile (· ≠ '?')).drop 1)

/-- The parts of a path without those that stay at a place, and with those that go back followed. -/
def withoutSteps (parts : List (List Char)) : List (List Char) :=
  let step (back : List (List Char)) (part : List Char) : List (List Char) :=
    if part = ['.'] then back
    else if part = ['.', '.'] then if back = [[]] then back else back.tail
    else part :: back
  (parts.foldl step []).reverse

/-- What follows the host in a reference that begins with two slashes. -/
def withoutHost : List Char → List Char
  | '/' :: '/' :: rest => rest.dropWhile (· ≠ '/')
  | cs => cs

def resolve (reference : List Char) : List Char :=
  let rooted := '/' :: (withoutHost reference).dropWhile (· = '/')
  let path := ['/'].intercalate (withoutSteps (Text.splitChars '/' rooted))
  if path.isEmpty then ['/'] else path

/-- One parameter of a query: name and value, where a plus sign is a space. -/
def parameter (cs : List Char) : String × String :=
  let spaced (cs : List Char) : List Char := cs.map fun c => if c = '+' then ' ' else c
  (unescape (spaced (cs.takeWhile (· ≠ '='))), unescape (spaced ((cs.dropWhile (· ≠ '=')).drop 1)))

def parameters (query : List Char) : List (String × String) :=
  ((Text.splitChars '&' query).filter (!·.isEmpty)).map parameter

end Http

namespace HttpRequest

def path (r : HttpRequest) : String :=
  Http.unescape (Http.resolve (Http.splitTarget r.target).1)

/-- A parameter of the query; of several the last counts. -/
def parameter? (r : HttpRequest) (name : String) : Option String :=
  ((Http.parameters (Http.splitTarget r.target).2).reverse.find? (·.1 == name)).map Prod.snd

def header? (r : HttpRequest) (name : String) : Option String :=
  (r.headers.find? fun (n, _) => Text.lower n == name).map Prod.snd

end HttpRequest

end Shortlist
