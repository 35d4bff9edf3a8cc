/-
This file defines the metadata that every object carries, and the address of an object.
-/

import ResourceApi.Json.Reader

namespace ResourceApi

/-- The namespace is empty for objects of the whole cluster. -/
structure Address where
  name : String
  space : String
  deriving DecidableEq, Inhabited

namespace Address

def inCluster (name : String) : Address := ⟨name, ""⟩

/-- The namespace is left out where it is empty. -/
def display (address : Address) : String :=
  if address.space = "" then address.name else address.space ++ "/" ++ address.name

def write (address : Address) : Json :=
  .object [("name", .text address.name), ("namespace", .text address.space)]

def read (json : Json) : Option Address := do
  let record ← json.asRecord ["name", "namespace"]
  return ⟨← record.required "name" Json.asText, ← record.required "namespace" Json.asText⟩

end Address

structure OwnerReference where
  apiVersion : String
  kind : String
  name : String
  uid : String
  controller : Option Bool
  deriving DecidableEq

namespace OwnerReference

def write (owner : OwnerReference) : Json :=
  .object [("apiVersion", .text owner.apiVersion), ("kind", .text owner.kind),
    ("name", .text owner.name), ("uid", .text owner.uid),
    ("controller", Json.ofOption .bool owner.controller)]

def memberNames : List String := ["apiVersion", "kind", "name", "uid", "controller"]

def read (json : Json) : Option OwnerReference := do
  let record ← json.asRecord memberNames
  return {
    apiVersion := ← record.required "apiVersion" Json.asText
    kind := ← record.required "kind" Json.asText
    name := ← record.required "name" Json.asText
    uid := ← record.required "uid" Json.asText
    controller := ← record.withDefault "controller" none (Json.asOption Json.asBool) }

end OwnerReference

structure ObjectMeta where
  name : String := ""
  /-- The name of a new object may be made from this text. -/
  generateName : String := ""
  /-- The namespace is empty for objects of the whole cluster. -/
  space : String := ""
  uid : String := ""
  generation : Option Int64 := none
  /-- The backend sets the version at every write. -/
  resourceVersion : String := ""
  deletionTimestamp : Option String := none
  deletionGracePeriodSeconds : Option UInt32 := none
  labels : Dict String := .empty
  annotations : Dict String := .empty
  ownerReferences : List OwnerReference := []
  finalizers : List String := []
  deriving DecidableEq

namespace ObjectMeta

instance : Inhabited ObjectMeta := ⟨{}⟩

def new (name space : String) : ObjectMeta := { name, space }

def named (name : String) : ObjectMeta := { name }

def withLabels (metadata : ObjectMeta) (labels : List (String × String)) : ObjectMeta :=
  { metadata with labels := Dict.ofList labels }

def address (metadata : ObjectMeta) : Address := ⟨metadata.name, metadata.space⟩

/-- Texts and lists that may be absent are left out where they are empty. -/
def write (metadata : ObjectMeta) : Json :=
  .object <|
    [("name", .text metadata.name)] ++
    Json.textField "generateName" metadata.generateName ++
    [("namespace", .text metadata.space)] ++
    Json.textField "uid" metadata.uid ++
    Json.optionalField "generation" Json.ofInt64 metadata.generation ++
    [("resourceVersion", .text metadata.resourceVersion)] ++
    Json.optionalField "deletionTimestamp" .text metadata.deletionTimestamp ++
    Json.optionalField "deletionGracePeriodSeconds" Json.ofUInt32
      metadata.deletionGracePeriodSeconds ++
    [("labels", Json.ofDict .text metadata.labels),
      ("annotations", Json.ofDict .text metadata.annotations)] ++
    Json.listField "ownerReferences" OwnerReference.write metadata.ownerReferences ++
    Json.listField "finalizers" .text metadata.finalizers

def memberNames : List String :=
  ["name", "generateName", "namespace", "uid", "generation", "resourceVersion",
    "deletionTimestamp", "deletionGracePeriodSeconds", "labels", "annotations",
    "ownerReferences", "finalizers"]

def read (json : Json) : Option ObjectMeta := do
  let record ← json.asRecord memberNames
  return {
    name := ← record.withDefault "name" "" Json.asText
    generateName := ← record.withDefault "generateName" "" Json.asText
    space := ← record.withDefault "namespace" "" Json.asText
    uid := ← record.withDefault "uid" "" Json.asText
    generation := ← record.withDefault "generation" none (Json.asOption Json.asInt64)
    resourceVersion := ← record.withDefault "resourceVersion" "" Json.asText
    deletionTimestamp :=
      ← record.withDefault "deletionTimestamp" none (Json.asOption Json.asText)
    deletionGracePeriodSeconds :=
      ← record.withDefault "deletionGracePeriodSeconds" none (Json.asOption Json.asUInt32)
    labels := ← record.withDefault "labels" .empty (Json.asDict Json.asText)
    annotations := ← record.withDefault "annotations" .empty (Json.asDict Json.asText)
    ownerReferences :=
      ← record.withDefault "ownerReferences" [] (Json.asList OwnerReference.read)
    finalizers := ← record.withDefault "finalizers" [] (Json.asList Json.asText) }

end ObjectMeta

structure ListMeta where
  /-- This is the revision of the backend when the list was made. -/
  resourceVersion : String := ""
  deriving DecidableEq, Inhabited

namespace ListMeta

def write (metadata : ListMeta) : Json :=
  .object [("resourceVersion", .text metadata.resourceVersion)]

def read (json : Json) : Option ListMeta := do
  let record ← json.asRecord ["resourceVersion"]
  return ⟨← record.withDefault "resourceVersion" "" Json.asText⟩

end ListMeta

end ResourceApi
