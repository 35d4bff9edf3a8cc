/-
This file defines how a request can fail.
-/

import ResourceApi.Backend
import ResourceApi.FieldError
import ResourceApi.Identity
import ResourceApi.Selector

namespace ResourceApi

inductive ApiError where
  | notFound (resource : GroupResource) (name : String)
  | alreadyExists (resource : GroupResource) (name : String)
  | conflict (resource : GroupResource) (name reason : String)
  | invalid (kind name : String) (errors : List FieldError)
  | badRequest (reason : String)
  | missingMetadata
  | selector (cause : SelectorError)
  | storage (cause : BackendError)
  | json

namespace ApiError

def named (resource : GroupResource) (name : String) : String :=
  resource.display ++ " \"" ++ name ++ "\""

def message : ApiError → String
  | .notFound resource name => named resource name ++ " not found"
  | .alreadyExists resource name => named resource name ++ " already exists"
  | .conflict resource name reason =>
      "operation cannot be fulfilled on " ++ named resource name ++ ": " ++ reason
  | .invalid kind name errors =>
      kind ++ " \"" ++ name ++ "\" is invalid: " ++ FieldError.summary errors
  | .badRequest reason => "bad request: " ++ reason
  | .missingMetadata => "object does not have metadata"
  | .selector cause => "selector error: " ++ cause.message
  | .storage cause => "storage error: " ++ cause.message
  | .json => "Json error"

def isNotFound : ApiError → Bool
  | .notFound .. => true
  | _ => false

def isAlreadyExists : ApiError → Bool
  | .alreadyExists .. => true
  | _ => false

def isConflict : ApiError → Bool
  | .conflict .. => true
  | _ => false

def isInvalid : ApiError → Bool
  | .invalid .. => true
  | _ => false

/-- The object that was to be changed is not the one that is stored now. -/
def outdated (resource : GroupResource) (name : String) : ApiError :=
  .conflict resource name
    ("the object has been modified; please apply your changes to the latest version " ++
      "and try again")

end ApiError

end ResourceApi
