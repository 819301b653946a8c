import Shortlist.Validation.Record
import Shortlist.Validation.Scalar

/-! # Resumes

The text of a resume with the file that it came from and its owner.
-/

namespace Shortlist

structure Resume where
  resumeId : String
  text : String
  ownerId : Option String
  filename : Option String
deriving DecidableEq, Repr

namespace Resume

open Validation

def ofFields (fs : Fields) : Validation Resume :=
  mk <$> required "resume_id" Validation.text fs <*> required "text" Validation.text fs
    <*> optional "owner_id" none optionalText fs <*> optional "filename" none optionalText fs

def ofValue : Value → Validation Resume := record .notRecord ofFields

def toValue (r : Resume) : Value :=
  .record
    [("resume_id", .text r.resumeId), ("text", .text r.text),
      ("owner_id", .ofOption .text r.ownerId), ("filename", .ofOption .text r.filename)]

end Resume

end Shortlist
