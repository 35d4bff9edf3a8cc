/-
This file reads from a stored document what selectors ask for: its labels and some of its fields.
-/

import ResourceApi.ApiError
import ResourceApi.Metadata

namespace ResourceApi

/-- The namespace can be selected only where objects have one. -/
def ObjectMeta.selectableFields (metadata : ObjectMeta) (namespaced : Bool) : Dict String :=
  let fields := Dict.singleton "metadata.name" metadata.name
  if namespaced then fields.insert "metadata.namespace" metadata.space else fields

structure Attributes where
  labels : Dict String
  fields : Dict String
  deriving DecidableEq

def Attributes.ofDocument (document : Json) (namespaced : Bool) : Except ApiError Attributes :=
  match document.field? "metadata" with
  | some (.object fields) =>
      match ObjectMeta.read (.object fields) with
      | some metadata => .ok ⟨metadata.labels, metadata.selectableFields namespaced⟩
      | none => .error .json
  | _ => .error .missingMetadata

end ResourceApi
