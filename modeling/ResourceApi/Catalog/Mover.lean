/-
This file defines movers. The hooks of a mover change the name, the namespace and the version of
the object itself.
-/

import ResourceApi.Catalog.Plain

namespace ResourceApi.Catalog

structure MoverSpec where
  rename : String := ""
  renamespace : String := ""
  reversion : String := ""
  deriving DecidableEq, Inhabited

structure MoverStatus where
  phase : String := ""
  note : String := ""
  deriving DecidableEq, Inhabited

def MoverSpec.write (spec : MoverSpec) : Json :=
  .object [("rename", .text spec.rename), ("renamespace", .text spec.renamespace),
    ("reversion", .text spec.reversion)]

def MoverSpec.read (json : Json) : Option MoverSpec := do
  let record ← json.asRecord ["rename", "renamespace", "reversion"]
  return {
    rename := ← record.withDefault "rename" "" Json.asText
    renamespace := ← record.withDefault "renamespace" "" Json.asText
    reversion := ← record.withDefault "reversion" "" Json.asText }

def MoverStatus.write (status : MoverStatus) : Json :=
  .object [("phase", .text status.phase), ("note", .text status.note)]

def MoverStatus.read (json : Json) : Option MoverStatus := do
  let record ← json.asRecord ["phase", "note"]
  return {
    phase := ← record.withDefault "phase" "" Json.asText
    note := ← record.withDefault "note" "" Json.asText }

def mover : Kind MoverSpec MoverStatus where
  group := sampleGroup
  version := "v1"
  name := "Mover"
  plural := "movers"
  defaultSpec := {}
  defaultStatus := {}
  writeSpec := MoverSpec.write
  readSpec := MoverSpec.read
  writeStatus := MoverStatus.write
  readStatus := MoverStatus.read

abbrev Mover := Object MoverSpec MoverStatus

/-- A wish that is not empty takes the place of what is there. -/
def wished (wish current : String) : String :=
  if wish = "" then current else wish

def move (mover : Mover) : Mover :=
  let metadata :=
    { mover.metadata with
      name := wished mover.spec.rename mover.metadata.name
      space := wished mover.spec.renamespace mover.metadata.space
      resourceVersion := wished mover.spec.reversion mover.metadata.resourceVersion }
  { mover with metadata }

def moverTable (movers : List Mover) : Except ApiError Table :=
  if movers.isEmpty then .error .missingMetadata else .ok ⟨[], []⟩

/-- Only the phase of a status is copied. -/
def copyPhase (source target : Mover) : Mover :=
  { target with status.phase := source.status.phase }

/-- These are all behaviours that are written for movers. -/
def moverBehaviours : Capabilities MoverSpec MoverStatus where
  generateName := some fun _ => ""
  prepareForCreate := some fun _ mover => move mover
  prepareForUpdate := some fun _ mover _ => move mover
  validate := some fun _ _ => [FieldError.invalid ⟨"spec"⟩ (.text "bad") "invalid"]
  validateUpdate := some fun _ _ _ => [FieldError.forbidden ⟨"spec"⟩ "immutable"]
  canonicalize := some move
  allowCreateOnUpdate := some false
  allowUnconditionalUpdate := some false
  convertToTable := some fun _ movers => moverTable movers
  shortNames := some []
  singularName := some ""
  copyStatus := some copyPhase

/-- Movers do not use all that is written for them. -/
def moverCapabilities : Capabilities MoverSpec MoverStatus :=
  moverBehaviours.restrict
    [.nameGenerator, .prepareForCreater, .prepareForUpdater, .allowCreateOnUpdater,
      .shortNamesProvider, .singularNameProvider, .statusCopier]

end ResourceApi.Catalog
