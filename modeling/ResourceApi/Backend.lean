/-
This file defines the backend that keeps all objects. It is a dictionary of JSON documents with
a revision. Every write takes the next revision and sets it as the version of the document.
-/

import ResourceApi.Json
import ResourceApi.Text.Decimal
import ResourceApi.Text.Split

namespace ResourceApi

inductive BackendError where
  | notFound (key : String)
  | alreadyExists (key : String)
  | conflict (key expected actual : String)
  | invalidObject (key reason : String)
  | unconfigured (reason : String)
  | lockPoisoned
  | json
  deriving DecidableEq

namespace BackendError

def message : BackendError → String
  | .notFound key => "key not found: " ++ key
  | .alreadyExists key => "key already exists: " ++ key
  | .conflict key expected actual =>
      "resource version conflict on " ++ key ++ ": expected " ++ expected ++ ", found " ++ actual
  | .invalidObject key reason => "invalid object at " ++ key ++ ": " ++ reason
  | .unconfigured reason => "storage is not configured: " ++ reason
  | .lockPoisoned => "lock poison error"
  | .json => "Json error"

def isNotFound : BackendError → Bool
  | .notFound _ => true
  | _ => false

def isConflict : BackendError → Bool
  | .conflict .. => true
  | _ => false

end BackendError

/-- The documents under a key root, and the revision at which they were listed. -/
structure Listing where
  items : List Json
  revision : String

structure Backend where
  revision : Nat
  items : Dict Json

namespace Backend

def empty : Backend := ⟨0, .empty⟩

instance : Inhabited Backend := ⟨empty⟩

def size (backend : Backend) : Nat := backend.items.size

/-- The version that a document carries, or the empty text where it carries none. -/
def documentVersion (document : Json) : String :=
  match (document.field? "metadata").bind (Json.field? "resourceVersion") with
  | some (.text version) => version
  | _ => ""

/-- The document carries the revision as its version, if it has metadata. -/
def stamp (revision : Nat) : Json → Option Json
  | .object fields =>
      match Entries.find? "metadata" fields with
      | some (.object metadata) =>
          let version := Json.text (Text.writeNat revision)
          let metadata := Json.object (Json.setField "resourceVersion" version metadata)
          some (.object (Json.setField "metadata" metadata fields))
      | _ => none
  | _ => none

def withoutMetadata (key : String) : BackendError :=
  .invalidObject key "object does not have metadata"

/-- The document takes the next revision and is stored under the key. -/
def write (backend : Backend) (key : String) (document : Json) :
    Except BackendError Json × Backend :=
  match stamp (backend.revision + 1) document with
  | none => (.error (withoutMetadata key), backend)
  | some stamped => (.ok stamped, ⟨backend.revision + 1, backend.items.insert key stamped⟩)

def create (backend : Backend) (key : String) (document : Json) :
    Except BackendError Json × Backend :=
  if backend.items.contains key then (.error (.alreadyExists key), backend)
  else backend.write key document

def get (backend : Backend) (key : String) : Except BackendError Json :=
  match backend.items.get? key with
  | none => .error (.notFound key)
  | some document => .ok document

/-- The keys are in order, so those below a root stand together. -/
def list (backend : Backend) (root : String) : Listing where
  items :=
    ((backend.items.entries.dropWhile fun entry => entry.1 < root).takeWhile
      fun entry => Text.startsWith entry.1 root).map Prod.snd
  revision := Text.writeNat backend.revision

/-- Where a version is expected, the stored document must carry it. -/
def update (backend : Backend) (key : String) (expected : Option String) (document : Json) :
    Except BackendError Json × Backend :=
  match backend.items.get? key with
  | none => (.error (.notFound key), backend)
  | some stored =>
      match expected with
      | none => backend.write key document
      | some expected =>
          let actual := documentVersion stored
          if actual = expected then backend.write key document
          else (.error (.conflict key expected actual), backend)

/-- A deletion takes no revision. -/
def delete (backend : Backend) (key : String) : Except BackendError Json × Backend :=
  match backend.items.get? key with
  | none => (.error (.notFound key), backend)
  | some document => (.ok document, { backend with items := backend.items.erase key })

end Backend

end ResourceApi
