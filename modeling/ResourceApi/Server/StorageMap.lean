/-
This file defines maps from versions to the resources that are served in them, and how the maps of
several contributions become one.
-/

import ResourceApi.BuildError
import ResourceApi.Dict

namespace ResourceApi

/-- A version serves each of its resources through one entry. -/
abbrev StorageMap (Entry : Type) := Dict (Dict Entry)

namespace StorageMap

variable {Entry : Type}

def find? (map : StorageMap Entry) (version resource : String) : Option Entry :=
  (map.get? version).bind fun resources => resources.get? resource

/-- The resources join those already served in the version. None may be served already. -/
def addResources (version : String) :
    List (String × Entry) → Dict Entry → Except BuildError (Dict Entry)
  | [], served => .ok served
  | (resource, entry) :: rest, served =>
      if served.contains resource then .error (.storageCollision version resource)
      else addResources version rest (served.insert resource entry)

def addVersions :
    List (String × Dict Entry) → StorageMap Entry → Except BuildError (StorageMap Entry)
  | [], map => .ok map
  | (version, resources) :: rest, map =>
      match addResources version resources.entries ((map.get? version).getD .empty) with
      | .error error => .error error
      | .ok served => addVersions rest (map.insert version served)

/-- The union of two maps, where no version serves a resource in both. -/
def merge (first second : StorageMap Entry) : Except BuildError (StorageMap Entry) :=
  addVersions second.entries first

end StorageMap

end ResourceApi
