import Shortlist.Failure.Basic
import Shortlist.Text.Lowercase
import Shortlist.Text.Tidy
import Shortlist.Text.Utf8

/-! # Uploads

A resume arrives as a file. The suffix of its name tells how to get at its text, which is then
tidied.
-/

namespace Shortlist

/-- A file, with what the readers of documents make of its octets. -/
structure Upload where
  filename : Option String
  octets : List UInt8
  pdf : Except Fault (Option String)
  docx : Except Fault (List String)

inductive FileFormat where
  | pdf
  | docx
  | txt
deriving DecidableEq, Repr

namespace FileFormat

def suffix : FileFormat → String
  | .pdf => ".pdf"
  | .docx => ".docx"
  | .txt => ".txt"

def all : List FileFormat := [.pdf, .docx, .txt]

/-- The last component of a path that is neither empty nor a single point. -/
def lastComponent (path : List Char) : List Char :=
  ((Text.splitChars '/' path).filter fun part => part ≠ [] && part ≠ ['.']).getLast?.getD []

/-- The last point of a file name and what follows it, where something stands on both sides. -/
def suffixOf (name : List Char) : List Char :=
  let extension := (name.reverse.takeWhile (· ≠ '.')).reverse
  let stem := name.take (name.length - extension.length - 1)
  if extension.length = name.length || extension.isEmpty || stem.isEmpty then []
  else '.' :: extension

def ofFilename? (filename : String) : Option FileFormat :=
  let suffix := String.ofList (Text.lowerChars (suffixOf (lastComponent filename.toList)))
  all.find? (·.suffix == suffix)

end FileFormat

namespace Upload

def rawText (u : Upload) : FileFormat → Except Fault String
  | .pdf => u.pdf.map (·.getD "")
  | .docx => u.docx.map (Text.join "\n")
  | .txt => .ok (Text.Utf8.decode u.octets)

def invalid (u : Upload) (message field : String) : Failure :=
  .make .validation message
    [("field", .text field), ("value", .ofOption .text u.filename)]

def unsupported (u : Upload) : Failure :=
  u.invalid
    ("unsupported file format: only " ++ Text.join ", " (FileFormat.all.map FileFormat.suffix) ++
      " are allowed")
    "filename"

def unreadable (u : Upload) (format : FileFormat) (fault : Fault) : Failure :=
  (u.invalid ("could not read " ++ format.suffix ++ " file: " ++ fault.text) "file").withCause fault

def text (u : Upload) : Except Fault String :=
  match FileFormat.ofFilename? (u.filename.getD "") with
  | none => .error (.failure u.unsupported)
  | some format =>
    match u.rawText format with
    | .ok s => .ok (Text.tidy s)
    | .error fault =>
      .error (if fault.isError then .failure (u.unreadable format fault) else fault)

end Upload

end Shortlist
