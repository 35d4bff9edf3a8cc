/-
This file turns the optional behaviours of a kind into the strategies that a store follows. A
behaviour that a kind lacks changes nothing, refuses nothing and allows nothing.
-/

import ResourceApi.Capabilities

namespace ResourceApi

structure Strategy (Spec Status : Type) where
  capabilities : Capabilities Spec Status
  namespaced : Bool

/-- An update strategy says how an object takes the place of a stored one. -/
structure UpdateStrategy (Spec Status : Type) where
  namespaced : Bool
  allowCreateOnUpdate : Bool
  allowUnconditionalUpdate : Bool
  prepare : Context → Object Spec Status → Object Spec Status → Object Spec Status
  validate : Context → Object Spec Status → Object Spec Status → List FieldError
  canonicalize : Object Spec Status → Object Spec Status
  debug : String

namespace Strategy

variable {Spec Status : Type} (strategy : Strategy Spec Status)

def ofKind (kind : Kind Spec Status) (capabilities : Capabilities Spec Status) :
    Strategy Spec Status :=
  ⟨capabilities, kind.namespaced⟩

def generateName (base : String) : String :=
  match strategy.capabilities.generateName with
  | some generate => generate base
  | none => base

def prepareForCreate (context : Context) (object : Object Spec Status) : Object Spec Status :=
  match strategy.capabilities.prepareForCreate with
  | some prepare => prepare context object
  | none => object

def validate (context : Context) (object : Object Spec Status) : List FieldError :=
  match strategy.capabilities.validate with
  | some validate => validate context object
  | none => []

def canonicalize (object : Object Spec Status) : Object Spec Status :=
  match strategy.capabilities.canonicalize with
  | some canonicalize => canonicalize object
  | none => object

def keepStatus (object stored : Object Spec Status) : Object Spec Status :=
  match strategy.capabilities.copyStatus with
  | some copy => copy stored object
  | none => object

/-- Where a kind has a status of its own, an update keeps the stored status. -/
def prepareForUpdate (context : Context) (object stored : Object Spec Status) :
    Object Spec Status :=
  let kept := strategy.keepStatus object stored
  match strategy.capabilities.prepareForUpdate with
  | some prepare => prepare context kept stored
  | none => kept

def validateUpdate (context : Context) (object stored : Object Spec Status) : List FieldError :=
  match strategy.capabilities.validateUpdate with
  | some validate => validate context object stored
  | none => []

/-- Nothing is answered where the kind has no table view. -/
def convertToTable (context : Context) (objects : List (Object Spec Status)) :
    Except ApiError (Option Table) :=
  match strategy.capabilities.convertToTable with
  | some convert => (convert context objects).map some
  | none => .ok none

def shortNames : List String :=
  strategy.capabilities.shortNames.getD []

/-- An empty singular name is none. -/
def singularName? : Option String :=
  strategy.capabilities.singularName.filter (· ≠ "")

def debug : String :=
  Text.labelled "DefaultStrategy"
    [("capabilities", strategy.capabilities.debug),
      ("namespace_scoped", if strategy.namespaced then "true" else "false")]

def update : UpdateStrategy Spec Status where
  namespaced := strategy.namespaced
  allowCreateOnUpdate := strategy.capabilities.allowCreateOnUpdate.getD false
  allowUnconditionalUpdate := strategy.capabilities.allowUnconditionalUpdate.getD false
  prepare := strategy.prepareForUpdate
  validate := strategy.validateUpdate
  canonicalize := strategy.canonicalize
  debug := strategy.debug

end Strategy

namespace UpdateStrategy

variable {Spec Status : Type}

/-- An override changes the incoming object and a working copy of the stored one. -/
abbrev Override (Spec Status : Type) :=
  Context → Object Spec Status → Object Spec Status → Object Spec Status × Object Spec Status

/-- The override runs before the inner strategy prepares the update. All else stays as it is. -/
def overridden (inner : UpdateStrategy Spec Status) (override : Option (Override Spec Status)) :
    UpdateStrategy Spec Status :=
  { inner with
    prepare := fun context object stored =>
      match override with
      | some override =>
          let rewritten := override context object stored
          inner.prepare context rewritten.1 rewritten.2
      | none => inner.prepare context object stored
    debug :=
      Text.labelled "PrepareForUpdaterStrategy"
        [("inner", inner.debug), ("override", if override.isSome then "true" else "false")] }

/-- The incoming status moves onto the stored object, so nothing else changes. -/
def ofStatus (inner : UpdateStrategy Spec Status)
    (copyStatus : Object Spec Status → Object Spec Status → Object Spec Status) :
    UpdateStrategy Spec Status :=
  inner.overridden <| some fun _ object stored =>
    let merged := copyStatus object stored
    (merged, merged)

end UpdateStrategy

end ResourceApi
