import Shortlist.Validation.Record
import Shortlist.Validation.Scalar

/-! # Actors

Who asks for something. An administrator sees the records of every owner, anybody else their own.
-/

namespace Shortlist

structure Actor where
  userId : String
  isAdmin : Bool
deriving DecidableEq, Repr

namespace Actor

open Validation

/-- The owner that lookups are limited to; none for no limit. -/
def scope (a : Actor) : Option String := if a.isAdmin then none else some a.userId

def ofFields (fs : Fields) : Validation Actor :=
  mk <$> required "user_id" text fs <*> optional "is_admin" false bool fs

def ofValue : Value → Validation Actor := record .notRecord ofFields

def toValue (a : Actor) : Value :=
  .record [("user_id", .text a.userId), ("is_admin", .bool a.isAdmin)]

end Actor

end Shortlist
