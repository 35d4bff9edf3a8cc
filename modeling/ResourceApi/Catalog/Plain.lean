/-
This file defines kinds that carry a message and have no behaviour of their own.
-/

import ResourceApi.Capabilities

namespace ResourceApi.Catalog

/-- This is the group of the sample kinds. -/
def sampleGroup : String := "foo.example.com"

structure MessageSpec where
  message : String := ""
  deriving DecidableEq, Inhabited

/-- Nothing is reported about a message. -/
structure NoStatus where
  deriving DecidableEq, Inhabited

def MessageSpec.write (spec : MessageSpec) : Json :=
  .object [("message", .text spec.message)]

def MessageSpec.read (json : Json) : Option MessageSpec := do
  let record ← json.asRecord ["message"]
  return ⟨← record.required "message" Json.asText⟩

def NoStatus.write (_ : NoStatus) : Json := .object []

def NoStatus.read (json : Json) : Option NoStatus :=
  (json.asRecord []).map fun _ => {}

def messageKind (name plural : String) : Kind MessageSpec NoStatus where
  group := sampleGroup
  version := "v1"
  name := name
  plural := plural
  defaultSpec := {}
  defaultStatus := {}
  writeSpec := MessageSpec.write
  readSpec := MessageSpec.read
  writeStatus := NoStatus.write
  readStatus := NoStatus.read

def bar : Kind MessageSpec NoStatus := messageKind "Bar" "bars"

def barx : Kind MessageSpec NoStatus := messageKind "Barx" "barsx"

def clusterBar : Kind MessageSpec NoStatus :=
  { messageKind "ClusterBar" "clusterbars" with namespaced := false }

def node : Kind MessageSpec NoStatus :=
  { messageKind "Node" "nodes" with group := "core", namespaced := false }

def orphan : Kind MessageSpec NoStatus :=
  { messageKind "Orphan" "orphans" with group := "other.example.com", version := "v1beta1" }

def blank : Kind MessageSpec NoStatus := messageKind "Blank" ""

def noGroup : Kind MessageSpec NoStatus :=
  { messageKind "NoGroup" "nogroups" with group := "" }

end ResourceApi.Catalog
