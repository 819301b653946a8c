import Shortlist.Validation.Record
import Shortlist.Value.Coerce

/-! # Profiles

What is known about a candidate: a summary, skills, and what they did and learned. Profiles come
from text-generation services, so their texts and lists are read loosely. A bare text stands for an
entry with only a description, or only a degree.
-/

namespace Shortlist

structure Experience where
  company : String
  role : String
  start : String
  «end» : String
  description : String
deriving DecidableEq, Repr

structure Education where
  institution : String
  degree : String
  start : String
  «end» : String
deriving DecidableEq, Repr

structure Profile where
  summary : String
  skills : List String
  experience : List Experience
  education : List Education
deriving DecidableEq, Repr

/-- The loose reading of a field as a text, empty where there is none. -/
def Fields.asText (name : String) (fs : Fields) : String :=
  ((fs.get? name).map Value.asText).getD ""

/-- The loose reading of a field as a list of texts, empty where there is none. -/
def Fields.asTexts (name : String) (fs : Fields) : List String :=
  ((fs.get? name).map Value.asTexts).getD []

namespace Experience

def ofFields (fs : Fields) : Experience :=
  ⟨fs.asText "company", fs.asText "role", fs.asText "start", fs.asText "end",
    fs.asText "description"⟩

def ofValue : Value → Validation Experience :=
  Validation.record .notRecord fun fs => .valid (ofFields fs)

def toValue (e : Experience) : Value :=
  .record
    [("company", .text e.company), ("role", .text e.role), ("start", .text e.start),
      ("end", .text e.end), ("description", .text e.description)]

end Experience

namespace Education

def ofFields (fs : Fields) : Education :=
  ⟨fs.asText "institution", fs.asText "degree", fs.asText "start", fs.asText "end"⟩

def ofValue : Value → Validation Education :=
  Validation.record .notRecord fun fs => .valid (ofFields fs)

def toValue (e : Education) : Value :=
  .record
    [("institution", .text e.institution), ("degree", .text e.degree), ("start", .text e.start),
      ("end", .text e.end)]

end Education

namespace Profile

open Validation

def empty : Profile := ⟨"", [], [], []⟩

def isEmpty (p : Profile) : Bool :=
  Text.isBlankText p.summary && p.skills.isEmpty && p.experience.isEmpty && p.education.isEmpty

/-- The entries that a value lists, nulls left out. A text is an entry with one field. -/
def entries (name : String) (v : Value) : List Value :=
  (v.asList.filter (!·.isNull)).map fun
    | .text s => .record [(name, .text s)]
    | v => v

def ofFields (fs : Fields) : Validation Profile :=
  mk (fs.asText "summary") (fs.asTexts "skills")
    <$> optional "experience" [] (fun v => itemsFrom Experience.ofValue 0 (entries "description" v))
      fs
    <*> optional "education" [] (fun v => itemsFrom Education.ofValue 0 (entries "degree" v)) fs

def ofValue : Value → Validation Profile := record .notRecord ofFields

def toValue (p : Profile) : Value :=
  .record
    [("summary", .text p.summary), ("skills", .texts p.skills),
      ("experience", .list (p.experience.map Experience.toValue)),
      ("education", .list (p.education.map Education.toValue))]

end Profile

end Shortlist
