import Shortlist.Candidate.Profile
import Shortlist.Validation.Scalar

/-! # Profile records

The state of the profile of a resume: a record is pending while the profile is being built, and then
holds the profile or the reason why there is none.
-/

namespace Shortlist

inductive ProfileStatus where
  | pending
  | ok
  | failed
deriving DecidableEq, Repr

def ProfileStatus.name : ProfileStatus → String
  | .pending => "pending"
  | .ok => "ok"
  | .failed => "failed"

def ProfileStatus.members : List (String × ProfileStatus) :=
  [ProfileStatus.pending, .ok, .failed].map fun s => (s.name, s)

structure ProfileRecord where
  resumeId : String
  status : ProfileStatus
  modelName : String
  errorMessage : String
  profile : Profile
  updatedAt : Moment
deriving DecidableEq, Repr

namespace ProfileRecord

open Validation

def ofFields (now : Moment) (fs : Fields) : Validation ProfileRecord :=
  mk <$> required "resume_id" text fs
    <*> optional "status" .pending (oneOf ProfileStatus.members) fs
    <*> optional "model_name" "" text fs
    <*> optional "error_message" "" text fs
    <*> optional "profile" .empty Profile.ofValue fs
    <*> optional "updated_at" now moment fs

def ofValue (now : Moment) : Value → Validation ProfileRecord := record .notRecord (ofFields now)

def toFields (r : ProfileRecord) : Fields :=
  [("resume_id", .text r.resumeId), ("status", .text r.status.name),
    ("model_name", .text r.modelName), ("error_message", .text r.errorMessage),
    ("profile", r.profile.toValue), ("updated_at", .time r.updatedAt)]

def toValue (r : ProfileRecord) : Value := .record r.toFields

end ProfileRecord

end Shortlist
