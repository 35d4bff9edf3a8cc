/-
This file defines API groups: everything that is served under one group name.
-/

import ResourceApi.Endpoint
import ResourceApi.Server.StorageMap

namespace ResourceApi

structure ApiGroup where
  name : String
  /-- The versions are in the order in which they are preferred. -/
  versions : List GroupVersion
  storage : StorageMap Endpoint

namespace ApiGroup

def addNew (known : List GroupVersion) (version : GroupVersion) : List GroupVersion :=
  if known.contains version then known else known ++ [version]

/-- Versions that are not known yet come last. -/
def addVersions (group : ApiGroup) (versions : List GroupVersion) : ApiGroup :=
  { group with versions := versions.foldl addNew group.versions }

/-- The second contribution joins the first. The name of the first stays. -/
def join (first second : ApiGroup) : Except BuildError ApiGroup :=
  match first.storage.merge second.storage with
  | .error error => .error error
  | .ok storage => .ok ({ first with storage }.addVersions second.versions)

/-- A group belongs where its first version belongs. -/
def home (group : ApiGroup) : String :=
  match group.versions with
  | [] => ""
  | version :: _ => version.group

/-- Every endpoint of the group is marked with the number of its contribution. -/
def contributedBy (group : ApiGroup) (contribution : Nat) : ApiGroup :=
  { group with
    storage := group.storage.map fun _ resources =>
      resources.map fun _ endpoint => { endpoint with id.contribution := contribution } }

end ApiGroup

end ResourceApi
