/-
This file defines the optional behaviours of a kind. A kind has the behaviours whose entries in
its table are filled.
-/

import ResourceApi.ApiError
import ResourceApi.Context
import ResourceApi.Kind
import ResourceApi.Table

namespace ResourceApi

structure Capabilities (Spec Status : Type) where
  /-- The name of an object that was created with the start of a name only. -/
  generateName : Option (String → String) := none
  prepareForCreate : Option (Context → Object Spec Status → Object Spec Status) := none
  /-- The new object is prepared with the stored one in sight. -/
  prepareForUpdate :
    Option (Context → Object Spec Status → Object Spec Status → Object Spec Status) := none
  validate : Option (Context → Object Spec Status → List FieldError) := none
  validateUpdate :
    Option (Context → Object Spec Status → Object Spec Status → List FieldError) := none
  canonicalize : Option (Object Spec Status → Object Spec Status) := none
  allowCreateOnUpdate : Option Bool := none
  allowUnconditionalUpdate : Option Bool := none
  convertToTable : Option (Context → List (Object Spec Status) → Except ApiError Table) := none
  shortNames : Option (List String) := none
  singularName : Option String := none
  /-- The status of the first object is moved onto the second. -/
  copyStatus : Option (Object Spec Status → Object Spec Status → Object Spec Status) := none

inductive Capability where
  | nameGenerator
  | prepareForCreater
  | prepareForUpdater
  | validater
  | validateUpdater
  | canonicalizer
  | allowCreateOnUpdater
  | allowUnconditionalUpdater
  | tableConverter
  | shortNamesProvider
  | singularNameProvider
  | statusCopier
  deriving DecidableEq

namespace Capability

def all : List Capability :=
  [.nameGenerator, .prepareForCreater, .prepareForUpdater, .validater, .validateUpdater,
    .canonicalizer, .allowCreateOnUpdater, .allowUnconditionalUpdater, .tableConverter,
    .shortNamesProvider, .singularNameProvider, .statusCopier]

def name : Capability → String
  | .nameGenerator => "NameGenerator"
  | .prepareForCreater => "PrepareForCreater"
  | .prepareForUpdater => "PrepareForUpdater"
  | .validater => "Validater"
  | .validateUpdater => "ValidateUpdater"
  | .canonicalizer => "Canonicalizer"
  | .allowCreateOnUpdater => "AllowCreateOnUpdater"
  | .allowUnconditionalUpdater => "AllowUnconditionalUpdater"
  | .tableConverter => "TableConverter"
  | .shortNamesProvider => "ShortNamesProvider"
  | .singularNameProvider => "SingularNameProvider"
  | .statusCopier => "StatusCopier"

def ofName? (written : String) : Option Capability :=
  all.find? fun capability => capability.name = written

end Capability

namespace Capabilities

variable {Spec Status : Type}

def none : Capabilities Spec Status := {}

/-- This is the usual way to copy a status: nothing but the status moves. -/
def copyWholeStatus (source target : Object Spec Status) : Object Spec Status :=
  { target with status := source.status }

def has (table : Capabilities Spec Status) : Capability → Bool
  | .nameGenerator => table.generateName.isSome
  | .prepareForCreater => table.prepareForCreate.isSome
  | .prepareForUpdater => table.prepareForUpdate.isSome
  | .validater => table.validate.isSome
  | .validateUpdater => table.validateUpdate.isSome
  | .canonicalizer => table.canonicalize.isSome
  | .allowCreateOnUpdater => table.allowCreateOnUpdate.isSome
  | .allowUnconditionalUpdater => table.allowUnconditionalUpdate.isSome
  | .tableConverter => table.convertToTable.isSome
  | .shortNamesProvider => table.shortNames.isSome
  | .singularNameProvider => table.singularName.isSome
  | .statusCopier => table.copyStatus.isSome

def hasStatus (table : Capabilities Spec Status) : Bool :=
  table.has .statusCopier

def enabled (table : Capabilities Spec Status) : List Capability :=
  Capability.all.filter table.has

/-- The entries of the chosen behaviours and no others. -/
def restrict (table : Capabilities Spec Status) (chosen : List Capability) :
    Capabilities Spec Status :=
  let keep {Entry : Type} (capability : Capability) (entry : Option Entry) : Option Entry :=
    entry.filter fun _ => chosen.contains capability
  { generateName := keep .nameGenerator table.generateName
    prepareForCreate := keep .prepareForCreater table.prepareForCreate
    prepareForUpdate := keep .prepareForUpdater table.prepareForUpdate
    validate := keep .validater table.validate
    validateUpdate := keep .validateUpdater table.validateUpdate
    canonicalize := keep .canonicalizer table.canonicalize
    allowCreateOnUpdate := keep .allowCreateOnUpdater table.allowCreateOnUpdate
    allowUnconditionalUpdate := keep .allowUnconditionalUpdater table.allowUnconditionalUpdate
    convertToTable := keep .tableConverter table.convertToTable
    shortNames := keep .shortNamesProvider table.shortNames
    singularName := keep .singularNameProvider table.singularName
    copyStatus := keep .statusCopier table.copyStatus }

def debug (table : Capabilities Spec Status) : String :=
  "Capabilities(" ++
    Text.bracketed (table.enabled.map fun capability => Text.quoted capability.name) ++ ")"

end Capabilities

end ResourceApi
