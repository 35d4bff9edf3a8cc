/-
This file names what is served: the group and version of a kind, and the group and name of a
resource.
-/

import ResourceApi.Json.Reader
import ResourceApi.Text.Quoted

namespace ResourceApi

structure GroupVersion where
  group : String
  version : String
  deriving DecidableEq, Inhabited

structure GroupResource where
  group : String
  resource : String
  deriving DecidableEq, Inhabited

namespace GroupVersion

/-- The group is left out where it is empty. -/
def display (groupVersion : GroupVersion) : String :=
  if groupVersion.group = "" then groupVersion.version
  else groupVersion.group ++ "/" ++ groupVersion.version

def withResource (groupVersion : GroupVersion) (resource : String) : GroupResource :=
  ⟨groupVersion.group, resource⟩

def debug (groupVersion : GroupVersion) : String :=
  Text.labelled "GroupVersion"
    [("group", Text.quoted groupVersion.group), ("version", Text.quoted groupVersion.version)]

def write (groupVersion : GroupVersion) : Json :=
  .object [("group", .text groupVersion.group), ("version", .text groupVersion.version)]

def read (json : Json) : Option GroupVersion := do
  let record ← json.asRecord ["group", "version"]
  return ⟨← record.required "group" Json.asText, ← record.required "version" Json.asText⟩

end GroupVersion

namespace GroupResource

/-- The group is left out where it is empty. -/
def display (resource : GroupResource) : String :=
  if resource.group = "" then resource.resource
  else resource.resource ++ "." ++ resource.group

def debug (resource : GroupResource) : String :=
  Text.labelled "GroupResource"
    [("group", Text.quoted resource.group), ("resource", Text.quoted resource.resource)]

def write (resource : GroupResource) : Json :=
  .object [("group", .text resource.group), ("resource", .text resource.resource)]

def read (json : Json) : Option GroupResource := do
  let record ← json.asRecord ["group", "resource"]
  return ⟨← record.required "group" Json.asText, ← record.required "resource" Json.asText⟩

end GroupResource

end ResourceApi
