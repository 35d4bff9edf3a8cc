/-
This file shows that the stored form of an object loses nothing, and that all who read it agree: the
kind reads the whole object, the backend its version, and selectors its labels and fields.
-/

import ResourceApi.Proofs.Catalog
import ResourceApi.Proofs.Store.Shelf

namespace ResourceApi

variable {Spec Status : Type}

/-- Selectors see the name of an object and, where objects have one, its namespace. -/
theorem ObjectMeta.get?_selectableFields (metadata : ObjectMeta) (namespaced : Bool)
    (field : String) :
    (metadata.selectableFields namespaced).get? field =
      if field = "metadata.name" then some metadata.name
      else if field = "metadata.namespace" ∧ namespaced = true then some metadata.space
      else none := by
  have name : (Dict.singleton "metadata.name" metadata.name).get? field =
      if field = "metadata.name" then some metadata.name else none :=
    Dict.get?_insert ..
  cases namespaced with
  | false => simpa [selectableFields] using name
  | true =>
      by_cases isSpace : field = "metadata.namespace"
      · simp [selectableFields, isSpace]
      · simpa [selectableFields, isSpace] using name

namespace Object

/-- An object is read as it was written, also with another version set. -/
theorem stored_form_lossless {kind : Kind Spec Status} (faithful : kind.Faithful)
    (object : Object Spec Status) :
    read kind (object.write kind) = some object ∧
    (∃ fields, (object.write kind).field? "metadata" = some (.object fields)) ∧
    Backend.documentVersion (object.write kind) = object.metadata.resourceVersion ∧
    (∀ revision, ∃ stamped, Backend.stamp revision (object.write kind) = some stamped ∧
      read kind stamped = some (object.withVersion (Text.writeNat revision)) ∧
      Backend.documentVersion stamped = Text.writeNat revision ∧
      ∀ namespaced, Attributes.ofDocument stamped namespaced =
        Attributes.ofDocument (object.write kind) namespaced) ∧
    ∀ namespaced, ∃ attributes,
      Attributes.ofDocument (object.write kind) namespaced = .ok attributes ∧
      attributes.labels = object.metadata.labels ∧
      ∀ field, attributes.fields.get? field =
        if field = "metadata.name" then some object.metadata.name
        else if field = "metadata.namespace" ∧ namespaced = true then some object.metadata.space
        else none := by
  refine ⟨read_write_of_faithful faithful object, ⟨object.metadata.fields, ?_⟩,
    Backend.documentVersion_write kind object, ?_, ?_⟩
  · simp [write_eq, Json.field?, fields, ObjectMeta.write_eq]
  · intro revision
    refine ⟨_, Backend.stamp_write kind object revision, read_write_of_faithful faithful _,
      Backend.documentVersion_write kind _, ?_⟩
    intro namespaced
    rw [Attributes.ofDocument_write, Attributes.ofDocument_write]
    rfl
  · intro namespaced
    exact ⟨_, Attributes.ofDocument_write kind object namespaced, rfl,
      object.metadata.get?_selectableFields namespaced⟩

section Gadgets

open Catalog

/-- One of its owners does not say whether it is in control. -/
def ownedGadget : Object GadgetSpec GadgetStatus where
  apiVersion := ""
  kind := "Gadget"
  metadata := {
    name := "a"
    space := "b"
    generation := some (-1)
    resourceVersion := "7"
    deletionTimestamp := some ""
    labels := .singleton "" "x"
    ownerReferences := [⟨"v1", "Node", "n", "", none⟩, ⟨"v1", "Node", "m", "", some false⟩] }
  spec := ⟨3⟩
  status := ⟨"ready"⟩

theorem ownedGadget_lossless :
    read gadget (ownedGadget.write gadget) = some ownedGadget ∧
      (∃ stamped, Backend.stamp 8 (ownedGadget.write gadget) = some stamped ∧
        read gadget stamped = some (ownedGadget.withVersion "8")) ∧
      ∃ attributes, Attributes.ofDocument (ownedGadget.write gadget) true = .ok attributes ∧
        attributes.labels = .singleton "" "x" ∧
        attributes.fields.get? "metadata.namespace" = some "b" := by
  obtain ⟨whole, _, _, stamps, shows⟩ := stored_form_lossless gadget_faithful ownedGadget
  obtain ⟨stamped, done, readable, _⟩ := stamps 8
  obtain ⟨attributes, found, labels, fields⟩ := shows true
  exact ⟨whole, ⟨stamped, done, readable⟩, attributes, found, labels, fields _⟩

end Gadgets

end Object

end ResourceApi
