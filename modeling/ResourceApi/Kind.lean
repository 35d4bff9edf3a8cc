/-
This file defines kinds of resources and the objects of a kind. An object has a specification,
which says what is wanted, and a status, which says what was seen.
-/

import ResourceApi.Identity
import ResourceApi.Metadata
import ResourceApi.Text.Lower

namespace ResourceApi

/-- A kind names itself and says how its specification and status are written as JSON. -/
structure Kind (Spec Status : Type) where
  group : String
  /-- This version is preferred. -/
  version : String
  name : String
  plural : String
  namespaced : Bool := true
  defaultSpec : Spec
  defaultStatus : Status
  writeSpec : Spec → Json
  readSpec : Json.Reader Spec
  writeStatus : Status → Json
  readStatus : Json.Reader Status

/-- The text of a version in the core group does not name the group. -/
def Kind.apiVersion {Spec Status : Type} (kind : Kind Spec Status) : String :=
  if kind.group = "core" then kind.version else kind.group ++ "/" ++ kind.version

namespace Kind

variable {Spec Status : Type} (kind : Kind Spec Status)

def groupVersion : GroupVersion := ⟨kind.group, kind.version⟩

def groupResource : GroupResource := ⟨kind.group, kind.plural⟩

/-- This is the singular name of a kind that does not choose one. -/
def lowerName : String := Text.lower kind.name

/-- Writing and reading specifications and statuses of the kind loses nothing. -/
def Faithful : Prop :=
  (∀ spec, kind.readSpec (kind.writeSpec spec) = some spec) ∧
    (∀ status, kind.readStatus (kind.writeStatus status) = some status)

end Kind

structure Object (Spec Status : Type) where
  apiVersion : String
  kind : String
  metadata : ObjectMeta
  spec : Spec
  status : Status
  deriving DecidableEq

namespace Object

variable {Spec Status : Type}

/-- This is the object that has the identity of its kind and nothing else. -/
def empty (kind : Kind Spec Status) : Object Spec Status where
  apiVersion := kind.apiVersion
  kind := kind.name
  metadata := {}
  spec := kind.defaultSpec
  status := kind.defaultStatus

def withKind (object : Object Spec Status) (kind : Kind Spec Status) : Object Spec Status :=
  { object with apiVersion := kind.apiVersion, kind := kind.name }

def withName (object : Object Spec Status) (name : String) : Object Spec Status :=
  { object with metadata.name := name }

def withSpace (object : Object Spec Status) (space : String) : Object Spec Status :=
  { object with metadata.space := space }

def withVersion (object : Object Spec Status) (version : String) : Object Spec Status :=
  { object with metadata.resourceVersion := version }

def address (object : Object Spec Status) : Address := object.metadata.address

def write (kind : Kind Spec Status) (object : Object Spec Status) : Json :=
  .object [("apiVersion", .text object.apiVersion), ("kind", .text object.kind),
    ("metadata", object.metadata.write), ("spec", kind.writeSpec object.spec),
    ("status", kind.writeStatus object.status)]

def memberNames : List String := ["apiVersion", "kind", "metadata", "spec", "status"]

/-- Every member that is missing is filled in from the kind. -/
def read (kind : Kind Spec Status) (json : Json) : Option (Object Spec Status) := do
  let record ← json.asRecord memberNames
  return {
    apiVersion := ← record.withDefault "apiVersion" kind.apiVersion Json.asText
    kind := ← record.withDefault "kind" kind.name Json.asText
    metadata := ← record.withDefault "metadata" {} ObjectMeta.read
    spec := ← record.withDefault "spec" kind.defaultSpec kind.readSpec
    status := ← record.withDefault "status" kind.defaultStatus kind.readStatus }

end Object

structure ObjectList (Spec Status : Type) where
  apiVersion : String
  kind : String
  metadata : ListMeta
  items : List (Object Spec Status)
  deriving DecidableEq

namespace ObjectList

variable {Spec Status : Type}

def empty (kind : Kind Spec Status) : ObjectList Spec Status where
  apiVersion := kind.apiVersion
  kind := kind.name ++ "List"
  metadata := {}
  items := []

def write (kind : Kind Spec Status) (list : ObjectList Spec Status) : Json :=
  .object [("apiVersion", .text list.apiVersion), ("kind", .text list.kind),
    ("metadata", list.metadata.write), ("items", .list (list.items.map (Object.write kind)))]

def read (kind : Kind Spec Status) (json : Json) : Option (ObjectList Spec Status) := do
  let record ← json.asRecord ["apiVersion", "kind", "metadata", "items"]
  return {
    apiVersion := ← record.required "apiVersion" Json.asText
    kind := ← record.required "kind" Json.asText
    metadata := ← record.required "metadata" ListMeta.read
    items := ← record.required "items" (Json.asList (Object.read kind)) }

end ObjectList

end ResourceApi
