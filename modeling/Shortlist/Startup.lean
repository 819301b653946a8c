import Shortlist.Logging.Entry
import Shortlist.Store.Basic
import Shortlist.Text.Lowercase
import Shortlist.Text.Occurrence
import Shortlist.Text.Split

/-! # Starting up

The service makes the indexes of its collections when it starts. That an index cannot be made is
logged and does not keep the service from running.
-/

namespace Shortlist

structure IndexKey where
  field : String
  ascending : Bool
deriving DecidableEq, Repr

structure Index where
  collection : Collection
  keys : List IndexKey
  unique : Bool
deriving DecidableEq, Repr

def Index.place (i : Index) : String :=
  i.collection.name ++ "." ++ Text.join "+" (i.keys.map IndexKey.field)

namespace Startup

def uniqueIndexes : List Index :=
  [(Collection.resumes, "resume_id"), (.profiles, "resume_id"), (.vacancies, "vacancy_id"),
      (.analyses, "analysis_id")].map fun (c, field) => ⟨c, [⟨field, true⟩], true⟩

def secondaryIndexes : List Index :=
  [⟨.analyses, [⟨"vacancy_id", true⟩, ⟨"created_at", false⟩], false⟩,
    ⟨.analyses, [⟨"owner_id", true⟩], false⟩,
    ⟨.vacancies, [⟨"owner_id", true⟩, ⟨"created_at", false⟩], false⟩,
    ⟨.resumes, [⟨"owner_id", true⟩], false⟩]

/-- What happened so far: the indexes asked for, and the log. -/
structure Progress where
  indexes : List Index
  log : List LogEntry

namespace Progress

def say (p : Progress) (level : LogLevel) (message : String) : Progress :=
  { p with log := p.log ++ [⟨level, message⟩] }

def request (p : Progress) (i : Index) : Progress := { p with indexes := p.indexes ++ [i] }

end Progress

def alreadyExists (reason : String) : Bool :=
  Text.occursIn "already exists".toList (Text.lowerChars reason.toList)

/-- Makes a unique index. `refusal` tells why an index cannot be made. -/
def makeUnique (refusal : Index → Option String) (p : Progress) (i : Index) : Progress :=
  let p := p.request i
  match refusal i with
  | none => p.say .debug ("Created unique index on " ++ i.place)
  | some reason =>
    if alreadyExists reason then p.say .debug ("Index on " ++ i.place ++ " already exists")
    else
      p.say .warning ("Could not create unique index on " ++ i.place ++ ": " ++ reason)

/-- Makes the other indexes up to the first that cannot be made. -/
def makeSecondary (refusal : Index → Option String) : List Index → Progress → Progress
  | [], p => p.say .debug "Created owner and listing indexes"
  | i :: rest, p =>
    match refusal i with
    | none => makeSecondary refusal rest (p.request i)
    | some reason =>
      (p.request i).say .warning ("Could not create some secondary indexes: " ++ reason)

def makeIndexes (refusal : Index → Option String) (p : Progress) : Progress :=
  let p := uniqueIndexes.foldl (makeUnique refusal) p
  (makeSecondary refusal secondaryIndexes p).say .info "Database index initialization completed"

/-- Everything up to the moment when the service runs. `broken` says that making indexes fails as a
whole. -/
def start (refusal : Index → Option String) (broken : Bool) : Progress :=
  let p : Progress := ⟨[], []⟩
  let p := p.say .info "Screening API starting up..."
  let p := p.say .info "Initializing database indexes..."
  let p := p.say .info "Starting database index initialization"
  let p :=
    if broken then
      p.say .info "Application will continue - some operations may be slower without indexes"
    else (makeIndexes refusal p).say .info "Database indexes initialized successfully"
  p.say .info "Screening API startup completed"

def stop : List LogEntry := [⟨.info, "Screening API shutting down..."⟩]

end Startup

end Shortlist
