/-
This file shows that a request that writes does all of its work or none of it. What it answers can
always be read from what it has stored.
-/

import ResourceApi.Proofs.Store.StatusSplit

namespace ResourceApi.Store

variable {Spec Status : Type} {store : Store Spec Status} {backend : Backend}

/-- A request that fails changes nothing, and one that succeeds stores its answer. -/
inductive AllOrNothing (store : Store Spec Status) (backend : Backend) :
    Except ApiError (Object Spec Status) × Backend → Prop
  | nothing (error : ApiError) : AllOrNothing store backend (.error error, backend)
  | all {key : String} {document : Json} {result : Object Spec Status} {after : Backend}
      (holds : after.items.get? key = some document)
      (others : ∀ other, other ≠ key → after.items.get? other = backend.items.get? other)
      (revision : after.revision = backend.revision + 1)
      (read : store.read document = .ok result)
      (version : result.metadata.resourceVersion = Text.writeNat after.revision) :
      AllOrNothing store backend (.ok result, after)

/-- Once an object is stored, nothing can fail any more. -/
theorem allOrNothing_put (faithful : store.kind.Faithful) (key : String)
    (object : Object Spec Status) :
    store.AllOrNothing backend
      (store.read (store.document backend object),
        backend.put key (store.document backend object)) := by
  have readable := @read_document _ _ store backend faithful object
  have holds : (backend.put key (store.document backend object)).items.get? key =
      some (store.document backend object) := by
    rw [Backend.put_get?, if_pos rfl]
  rw [readable]
  refine .all holds ?_ rfl readable rfl
  intro other different
  rw [Backend.put_get?, if_neg different]

theorem create_allOrNothing (faithful : store.kind.Faithful) (backend : Backend)
    (context : Context) (object : Object Spec Status) :
    store.AllOrNothing backend ((store.create context object).run backend) := by
  rcases create_cases context object backend with ⟨error, failed⟩ | ⟨admitted, _, _, created⟩
  · rw [failed]
    exact .nothing error
  · rw [created]
    exact allOrNothing_put faithful _ admitted

/-- This includes the update that turns into a creation. -/
theorem updateWith_allOrNothing (faithful : store.kind.Faithful) (backend : Backend)
    (strategy : UpdateStrategy Spec Status) (context : Context) (object : Object Spec Status) :
    store.AllOrNothing backend ((store.updateWith strategy context object).run backend) := by
  rcases updateWith_cases strategy context object backend with
    ⟨error, failed⟩ | ⟨target, _, _, _, replacing, _, _, _, _, _, replaced⟩ |
    ⟨target, _, _, _, created⟩
  · rw [failed]
    exact .nothing error
  · rw [replaced]
    exact allOrNothing_put faithful _ replacing
  · rw [created]
    exact create_allOrNothing faithful backend context _

/-- Every write does all of its work or none of it. -/
theorem writes_all_or_nothing (faithful : store.kind.Faithful) (backend : Backend)
    (context : Context) (object : Object Spec Status) :
    store.AllOrNothing backend ((store.create context object).run backend) ∧
    store.AllOrNothing backend ((store.update context object).run backend) ∧
    ∀ strategy, store.statusStrategy? = some strategy →
      store.AllOrNothing backend ((store.updateWith strategy context object).run backend) :=
  ⟨create_allOrNothing faithful backend context object,
    updateWith_allOrNothing faithful backend store.strategy.update context object,
    fun strategy _ => updateWith_allOrNothing faithful backend strategy context object⟩

section Gadgets

open Catalog

/-- Beside a gadget, this backend holds a document that is no object at all. -/
def spoiledBackend : Backend :=
  gadgetBackend.put (gadgets.key "b" "c") (.text "spoiled")

/-- The gadget whose place the document has cannot be updated. -/
theorem gadgets_all_or_nothing :
    let status := gadgets.strategy.update.ofStatus Capabilities.copyWholeStatus
    let failed :=
      (gadgets.update {} { changedGadget with metadata.name := "c" }).run spoiledBackend
    let done := (gadgets.updateWith status {} changedGadget).run spoiledBackend
    gadgets.kind.Faithful ∧
    (gadgets.AllOrNothing spoiledBackend failed ∧ failed.2.revision = 2) ∧
    (gadgets.AllOrNothing spoiledBackend done ∧ done.2.revision = 3) := by
  intro status failed done
  have spoiled := @writes_all_or_nothing _ _ gadgets gadget_faithful spoiledBackend {}
    { changedGadget with metadata.name := "c" }
  have sound := @writes_all_or_nothing _ _ gadgets gadget_faithful spoiledBackend {} changedGadget
  exact ⟨gadget_faithful, ⟨spoiled.2.1, by decide +kernel⟩,
    ⟨sound.2.2 status rfl, by decide +kernel⟩⟩

end Gadgets

end ResourceApi.Store
