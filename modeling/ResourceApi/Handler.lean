/-
This file registers kinds with a server. A registration says at which group versions a kind is
served, and makes its endpoints once the configuration is complete.
-/

import ResourceApi.Server

namespace ResourceApi

/-- What a registration or another source contributes to a group. -/
abbrev Contribution (State : Type) := CompletedConfig State → Except BuildError ApiGroup

structure Handler (State : Type) where
  groupVersions : List GroupVersion
  contribute : Contribution State

namespace Handler

variable {Spec Status State : Type}

/-- The status of a resource is served under this name. -/
def statusName (resource : String) : String := resource ++ "/status"

/-- A kind is served at its plural, and its status, where it has one, below that. -/
def endpoints (store : Store Spec Status) : Dict Endpoint :=
  let main := Dict.singleton store.resource.resource store.endpoint
  match store.statusEndpoint? with
  | none => main
  | some status =>
      main.insert (statusName store.resource.resource) { status with id := ⟨0, 1⟩ }

/-- Every version serves the same endpoints. -/
def storage (resources : Dict Endpoint) (groupVersions : List GroupVersion) :
    StorageMap Endpoint :=
  groupVersions.foldl (fun map groupVersion => map.insert groupVersion.version resources) .empty

def contribution (kind : Kind Spec Status) (capabilities : Capabilities Spec Status)
    (groupVersions : List GroupVersion) : Contribution State := fun config =>
  let strategy := Strategy.ofKind kind capabilities
  match Store.new kind kind.groupResource strategy config.locate with
  | .error error => .error error
  | .ok store => .ok ⟨kind.group, groupVersions, storage (endpoints store) groupVersions⟩

/-- Every group version must be in the group of the kind, and there must be one. -/
def ofKind (kind : Kind Spec Status) (capabilities : Capabilities Spec Status)
    (groupVersions : List GroupVersion) : Except BuildError (Handler State) :=
  if groupVersions.isEmpty then .error (.noGroupVersions kind.groupResource.display)
  else
    match groupVersions.find? fun groupVersion => groupVersion.group ≠ kind.group with
    | some groupVersion => .error (.resourceGroupMismatch kind.groupResource groupVersion)
    | none => .ok ⟨groupVersions, contribution kind capabilities groupVersions⟩

def debug (handler : Handler State) : String :=
  Text.labelled "ResourceHandler"
    [("group_versions", Text.bracketed (handler.groupVersions.map GroupVersion.debug))]

end Handler

end ResourceApi
