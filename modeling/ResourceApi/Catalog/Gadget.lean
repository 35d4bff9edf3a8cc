/-
This file defines gadgets. A gadget has a size, and a status that can be written on its own.
-/

import ResourceApi.Catalog.Plain

namespace ResourceApi.Catalog

structure GadgetSpec where
  size : UInt32 := 0
  deriving DecidableEq, Inhabited

structure GadgetStatus where
  phase : String := ""
  deriving DecidableEq, Inhabited

def GadgetSpec.write (spec : GadgetSpec) : Json :=
  .object [("size", Json.ofUInt32 spec.size)]

def GadgetSpec.read (json : Json) : Option GadgetSpec := do
  let record ← json.asRecord ["size"]
  return ⟨← record.required "size" Json.asUInt32⟩

def GadgetStatus.write (status : GadgetStatus) : Json :=
  .object [("phase", .text status.phase)]

def GadgetStatus.read (json : Json) : Option GadgetStatus := do
  let record ← json.asRecord ["phase"]
  return ⟨← record.required "phase" Json.asText⟩

def gadget : Kind GadgetSpec GadgetStatus where
  group := sampleGroup
  version := "v1"
  name := "Gadget"
  plural := "gadgets"
  defaultSpec := {}
  defaultStatus := {}
  writeSpec := GadgetSpec.write
  readSpec := GadgetSpec.read
  writeStatus := GadgetStatus.write
  readStatus := GadgetStatus.read

abbrev Gadget := Object GadgetSpec GadgetStatus

def validateGadget (gadget : Gadget) : List FieldError :=
  if gadget.spec.size = 0 then
    [FieldError.invalid ((⟨"spec"⟩ : FieldPath).child "size") (.whole 0) "must be positive"]
  else []

def gadgetRow (gadget : Gadget) : TableRow where
  cells := [.text gadget.metadata.name, Json.ofUInt32 gadget.spec.size]

def gadgetTable (gadgets : List Gadget) : Table where
  columns := [{ name := "Name", type := "string" }, { name := "Size", type := "integer" }]
  rows := gadgets.map gadgetRow

def gadgetCapabilities : Capabilities GadgetSpec GadgetStatus where
  generateName := some fun base => base ++ "gen"
  validate := some fun _ gadget => validateGadget gadget
  allowUnconditionalUpdate := some true
  convertToTable := some fun _ gadgets => .ok (gadgetTable gadgets)
  shortNames := some ["gd"]
  singularName := some "gizmo"
  copyStatus := some Capabilities.copyWholeStatus

end ResourceApi.Catalog
