/-
This file defines how the assembly of a server can fail.
-/

import ResourceApi.Backend
import ResourceApi.Identity
import ResourceApi.Version

namespace ResourceApi

inductive BuildError where
  | groupMismatch (expected found : String)
  | resourceGroupMismatch (resource : GroupResource) (groupVersion : GroupVersion)
  | emptyGroupName
  | noGroupVersions (name : String)
  | storeConstruction (resource : GroupResource) (cause : BackendError)
  | storageCollision (version resource : String)
  | groupAlreadyInstalled (group : String)
  | duplicatePostStartHook (name : String)
  | postStartHook (name reason : String)
  | version (cause : VersionError)
  | invalid (problems : List String)
  deriving DecidableEq

def BuildError.message : BuildError → String
  | .groupMismatch expected found =>
      "all exposed resources are expected to have the same group: \"" ++ expected ++ "\" and \""
        ++ found ++ "\""
  | .resourceGroupMismatch resource groupVersion =>
      "resource " ++ resource.display ++ " cannot be served in group version "
        ++ groupVersion.display
  | .emptyGroupName => "empty group name is not allowed"
  | .noGroupVersions name => "no group versions given for " ++ name
  | .storeConstruction resource cause =>
      "cannot construct store for " ++ resource.display ++ ": " ++ cause.message
  | .storageCollision served resource =>
      "resource \"" ++ resource ++ "\" of version \"" ++ served
        ++ "\" is contributed more than once"
  | .groupAlreadyInstalled group => "api group \"" ++ group ++ "\" is already installed"
  | .duplicatePostStartHook name =>
      "post start hook \"" ++ name ++ "\" is already registered"
  | .postStartHook name reason => "post start hook \"" ++ name ++ "\" failed: " ++ reason
  | .version cause => "version error: " ++ cause.message
  | .invalid problems => "invalid configuration: [" ++ Text.join ", " problems ++ "]"

end ResourceApi
