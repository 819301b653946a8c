import Shortlist.Value.Basic

/-! # The store

Four collections of documents, each in the order of insertion. Documents are looked up by the texts
of some of their fields; a document without the field does not match.
-/

namespace Shortlist

inductive Collection where
  | resumes
  | profiles
  | vacancies
  | analyses
deriving DecidableEq, Repr

def Collection.name : Collection → String
  | .resumes => "resumes"
  | .profiles => "profiles"
  | .vacancies => "vacancies"
  | .analyses => "analyses"

abbrev Document := Fields

/-- Fields and the texts that they have to hold. -/
abbrev Filter := List (String × String)

namespace Document

def holds (d : Document) (name text : String) : Bool :=
  match d.get? name with
  | some (.text s) => s == text
  | _ => false

def fits (f : Filter) (d : Document) : Bool := f.all fun (name, text) => holds d name text

/-- When a document was made, as far as it tells. -/
def creation? (d : Document) : Option Int :=
  match d.get? "created_at" with
  | some (.time t) => some t.instant
  | _ => none

/-- Made at the same time or later; a document that does not tell counts as older. -/
def notOlder (a b : Document) : Bool :=
  match a.creation?, b.creation? with
  | _, none => true
  | none, some _ => false
  | some s, some t => t ≤ s

end Document

def Filter.toFields (f : Filter) : Fields := f.map fun (name, text) => (name, .text text)

structure Store where
  resumes : List Document
  profiles : List Document
  vacancies : List Document
  analyses : List Document

namespace Store

def empty : Store := ⟨[], [], [], []⟩

def documents (s : Store) : Collection → List Document
  | .resumes => s.resumes
  | .profiles => s.profiles
  | .vacancies => s.vacancies
  | .analyses => s.analyses

def withDocuments (s : Store) (c : Collection) (ds : List Document) : Store :=
  match c with
  | .resumes => { s with resumes := ds }
  | .profiles => { s with profiles := ds }
  | .vacancies => { s with vacancies := ds }
  | .analyses => { s with analyses := ds }

end Store

inductive StoreCall where
  /-- The first document that fits. -/
  | findOne (c : Collection) (f : Filter)
  /-- Some of the documents that fit, the newest first. -/
  | findPage (c : Collection) (f : Filter) (limit offset : Nat)
  | insert (c : Collection) (d : Document)
  /-- Sets fields of the first document that fits, or adds a document. -/
  | setFields (c : Collection) (f : Filter) (fs : Fields)
  /-- Puts a document in the place of the first that fits, or adds it. -/
  | replace (c : Collection) (f : Filter) (d : Document)
  /-- Sets fields of the first document that fits and gives the result. -/
  | updateOne (c : Collection) (f : Filter) (fs : Fields)
  /-- Removes the first document that fits and tells how many went. -/
  | delete (c : Collection) (f : Filter)

inductive StoreMethod where
  | findOne
  | find
  | insertOne
  | updateOne
  | replaceOne
  | findOneAndUpdate
  | deleteOne
deriving DecidableEq, Repr

def StoreMethod.name : StoreMethod → String
  | .findOne => "find_one"
  | .find => "find"
  | .insertOne => "insert_one"
  | .updateOne => "update_one"
  | .replaceOne => "replace_one"
  | .findOneAndUpdate => "find_one_and_update"
  | .deleteOne => "delete_one"

namespace StoreCall

/-- The type of the answer to a call. -/
abbrev Answer : StoreCall → Type
  | .findOne .. => Option Document
  | .findPage .. => List Document
  | .insert .. => Unit
  | .setFields .. => Unit
  | .replace .. => Unit
  | .updateOne .. => Option Document
  | .delete .. => Nat

def collection : StoreCall → Collection
  | .findOne c _ => c
  | .findPage c .. => c
  | .insert c _ => c
  | .setFields c .. => c
  | .replace c .. => c
  | .updateOne c .. => c
  | .delete c _ => c

def method : StoreCall → StoreMethod
  | .findOne .. => .findOne
  | .findPage .. => .find
  | .insert .. => .insertOne
  | .setFields .. => .updateOne
  | .replace .. => .replaceOne
  | .updateOne .. => .findOneAndUpdate
  | .delete .. => .deleteOne

def isWrite : StoreCall → Bool
  | .findOne .. => false
  | .findPage .. => false
  | _ => true

end StoreCall

/-- Changes the first document that fits; none if no document does. -/
def changeFirst (f : Filter) (change : Document → Document) :
    List Document → Option (Document × List Document)
  | [] => none
  | d :: ds =>
    if d.fits f then some (change d, change d :: ds)
    else (changeFirst f change ds).map fun (found, rest) => (found, d :: rest)

namespace Store

/-- The answer to a call, and the store after it. -/
def answer (s : Store) : (q : StoreCall) → q.Answer × Store
  | .findOne c f => ((s.documents c).find? (Document.fits f), s)
  | .findPage c f limit offset =>
    let found := ((s.documents c).filter (Document.fits f)).mergeSort Document.notOlder
    ((found.drop offset).take limit, s)
  | .insert c d => ((), s.withDocuments c (s.documents c ++ [d]))
  | .setFields c f fs =>
    match changeFirst f (Fields.merge · fs) (s.documents c) with
    | some (_, ds) => ((), s.withDocuments c ds)
    | none => ((), s.withDocuments c (s.documents c ++ [f.toFields.merge fs]))
  | .replace c f d =>
    match changeFirst f (fun _ => d) (s.documents c) with
    | some (_, ds) => ((), s.withDocuments c ds)
    | none => ((), s.withDocuments c (s.documents c ++ [d]))
  | .updateOne c f fs =>
    match changeFirst f (Fields.merge · fs) (s.documents c) with
    | some (d, ds) => (some d, s.withDocuments c ds)
    | none => (none, s)
  | .delete c f =>
    let ds := s.documents c
    let rest := ds.eraseP (Document.fits f)
    (ds.length - rest.length, s.withDocuments c rest)

end Store

end Shortlist
