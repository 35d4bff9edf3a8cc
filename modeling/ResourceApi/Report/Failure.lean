/-
This file reports errors as JSON: the kind of an error, what it says, and to which classes of
errors it belongs. Errors of other layers are reported by their kind alone.
-/

import ResourceApi.ApiError
import ResourceApi.BuildError
import ResourceApi.Options

namespace ResourceApi.Report

def failure (kind : String) : Json := .object [("error", .text kind)]

def described (kind message : String) : Json :=
  .object [("error", .text kind), ("message", .text message)]

def classified (kind message : String) (classes : List Bool) : Json :=
  .object [("error", .text kind), ("message", .text message), ("is", .list (classes.map .bool))]

def backendKind : BackendError → String
  | .notFound _ => "NotFound"
  | .alreadyExists _ => "AlreadyExists"
  | .conflict .. => "Conflict"
  | .invalidObject .. => "InvalidObject"
  | .unconfigured _ => "Config"
  | .lockPoisoned => "LockPoisoned"
  | .json => "Json"

def backendError (error : BackendError) : Json :=
  match error with
  | .json => failure "Json"
  | _ => classified (backendKind error) error.message [error.isNotFound, error.isConflict]

def apiKind : ApiError → String
  | .notFound .. => "NotFound"
  | .alreadyExists .. => "AlreadyExists"
  | .conflict .. => "Conflict"
  | .invalid .. => "Invalid"
  | .badRequest _ => "BadRequest"
  | .missingMetadata => "MissingMetadata"
  | .selector _ => "Selector"
  | .storage _ => "Storage"
  | .json => "Json"

def apiError (error : ApiError) : Json :=
  match error with
  | .json => failure "Json"
  | .storage .json => failure "Storage"
  | _ =>
      classified (apiKind error) error.message
        [error.isNotFound, error.isAlreadyExists, error.isConflict, error.isInvalid]

def versionKind : VersionError → String
  | .parse _ => "Parse"
  | .unknownComponent _ => "UnknownComponent"
  | .duplicateComponent _ => "DuplicateComponent"
  | .selfMapping _ => "SelfMapping"
  | .duplicateMapping .. => "DuplicateMapping"
  | .conflictingRequest .. => "ConflictingRequest"
  | .emulationOutOfRange .. => "EmulationOutOfRange"
  | .unknownFeature .. => "UnknownFeature"
  | .lockedFeature .. => "LockedFeature"

def versionError (error : VersionError) : Json := described (versionKind error) error.message

def buildKind : BuildError → String
  | .groupMismatch .. => "GroupMismatch"
  | .resourceGroupMismatch .. => "ResourceGroupMismatch"
  | .emptyGroupName => "EmptyGroupName"
  | .noGroupVersions _ => "NoGroupVersions"
  | .storeConstruction .. => "StoreConstruction"
  | .storageCollision .. => "StorageCollision"
  | .groupAlreadyInstalled _ => "GroupAlreadyInstalled"
  | .duplicatePostStartHook _ => "DuplicatePostStartHook"
  | .postStartHook .. => "PostStartHook"
  | .version _ => "Version"
  | .invalid _ => "Invalid"

def buildError (error : BuildError) : Json := described (buildKind error) error.message

def selectorKind : SelectorError → String
  | .invalidTerm _ => "InvalidTerm"
  | .emptyKey _ => "EmptyKey"

def selectorError (error : SelectorError) : Json := described (selectorKind error) error.message

def optionsError : OptionsError → Json
  | .unreadable => failure "Io"
  | .malformed => failure "Yaml"
  | .invalid field reason => described "Invalid" (OptionsError.invalid field reason).message

end ResourceApi.Report
