/-
This file says where writes put their objects. The checks run before some of the hooks, so an
object is in its place exactly where the hooks do not move it afterwards.
-/

import ResourceApi.Proofs.Catalog
import ResourceApi.Proofs.Store.Reachable

namespace ResourceApi.Store

variable {Spec Status : Type} {store : Store Spec Status} {strategy : UpdateStrategy Spec Status}
  {backend after : Backend} {context : Context} {object result : Object Spec Status}

/-- The object is in the namespace of its request, and it fits its key. -/
def Placed (store : Store Spec Status) (context : Context) (asked : Object Spec Status)
    (key : String) (object : Object Spec Status) : Prop :=
  store.resolveSpace context asked.metadata.space = .ok object.metadata.space ∧
    store.Fits key object

/-- A new object is placed if its namespace stays and its name is legal. -/
theorem Writes.placed_new_iff {space : String}
    (settled : store.resolveSpace context object.metadata.space = .ok space)
    {final : Object Spec Status}
    (writes : store.Writes backend after (store.objectKey final) final result) :
    store.Placed context object (store.objectKey final) result ↔
      final.metadata.space = space ∧ IsSegment final.metadata.name := by
  have address := writes.address
  have sameSpace := (Object.address_eq_iff.1 address).2
  constructor
  · rintro ⟨resolved, fits⟩
    rw [sameSpace, settled] at resolved
    exact ⟨(Except.ok.inj resolved).symm, (fits.of_address address.symm).name⟩
  · rintro ⟨rfl, segment⟩
    have fits : store.Fits (store.objectKey final) final :=
      ⟨scopes_of_resolveSpace settled, segment, rfl⟩
    exact ⟨by rw [sameSpace, settled], fits.of_address address⟩

/-- A changed object is in its place if the hooks leave its address alone. -/
theorem Writes.placed_change_iff {space : String}
    (settled : store.resolveSpace context object.metadata.space = .ok space)
    (segment : IsSegment object.metadata.name) {final : Object Spec Status}
    (writes : store.Writes backend after (store.key space object.metadata.name) final result) :
    store.Placed context object (store.key space object.metadata.name) result ↔
      final.address = ⟨object.metadata.name, space⟩ := by
  have address := writes.address
  have targetFits := fits_withSpace settled segment
  constructor
  · rintro ⟨_, fits⟩
    exact address.symm.trans (fits.address_eq targetFits)
  · intro kept
    have moved : result.address = (object.withSpace space).address := address.trans kept
    have sameSpace : result.metadata.space = space := (Object.address_eq_iff.1 moved).2
    exact ⟨by rw [sameSpace, settled], targetFits.of_address moved⟩

/-- Where no hook touches an address, a new object is in its place. -/
theorem create_placed (keeps : store.strategy.KeepsAddress)
    (done : (store.create context object).run backend = (.ok result, after)) :
    ∃ key final, store.Writes backend after key final result ∧
      store.Placed context object key result := by
  obtain ⟨space, settled, accepted, writes⟩ := create_writes done
  obtain ⟨resolved, fits⟩ := accept_fits keeps accepted
  have sameSpace := Except.ok.inj (resolved.symm.trans settled)
  exact ⟨_, _, writes, (writes.placed_new_iff settled).2 ⟨sameSpace, fits.name⟩⟩

theorem updateWith_placed (keeps : store.strategy.KeepsAddress)
    (orderly : store.Orderly backend)
    (serves : strategy = store.strategy.update ∨ store.statusStrategy? = some strategy)
    (done : (store.updateWith strategy context object).run backend = (.ok result, after)) :
    ∃ key final, store.Writes backend after key final result ∧
      store.Placed context object key result := by
  obtain ⟨space, settled, segment, replaced | ⟨_, created⟩⟩ := updateWith_writes done
  · obtain ⟨current, stored, version, found, readable, replaced, writes⟩ := replaced
    have same := (orderly.fits_of_read found readable).address_eq (fits_withSpace settled segment)
    have kept := replacement_address keeps serves same replaced
    exact ⟨_, _, writes, (writes.placed_change_iff settled segment).2 kept⟩
  · obtain ⟨key, final, writes, resolved, fits⟩ := create_placed keeps created
    have again : store.resolveSpace context space = .ok result.metadata.space := resolved
    rw [resolveSpace_again settled] at again
    exact ⟨key, final, writes, settled.trans again, fits⟩

/-- A write places its object exactly where the later hooks leave its address alone. -/
theorem placed_iff_hooks_keep_address :
    (∀ {backend after : Backend} {context : Context} {object result : Object Spec Status},
      (store.create context object).run backend = (.ok result, after) →
      ∃ space, store.resolveSpace context object.metadata.space = .ok space ∧
        let final := store.finalNew context object space
        store.Writes backend after (store.objectKey final) final result ∧
        (store.Placed context object (store.objectKey final) result ↔
          final.metadata.space = space ∧ IsSegment final.metadata.name)) ∧
    (∀ {strategy : UpdateStrategy Spec Status} {backend after : Backend} {context : Context}
      {object result : Object Spec Status},
      (store.updateWith strategy context object).run backend = (.ok result, after) →
      ∃ space, store.resolveSpace context object.metadata.space = .ok space ∧
        let key := store.key space object.metadata.name
        ((∃ current stored version, backend.items.get? key = some current ∧
            store.read current = .ok stored ∧
            let final := store.finalChange strategy context (object.withSpace space) stored version
            store.Writes backend after key final result ∧
            (store.Placed context object key result ↔
              final.address = ⟨object.metadata.name, space⟩)) ∨
          backend.items.get? key = none ∧
            (store.create context ((object.withSpace space).withVersion "")).run backend =
              (.ok result, after))) ∧
    (store.strategy.KeepsAddress →
      ∀ {backend after : Backend} {context : Context} {object result : Object Spec Status},
      store.Reachable backend →
      ((store.create context object).run backend = (.ok result, after) →
        ∃ key final, store.Writes backend after key final result ∧
          store.Placed context object key result) ∧
      (∀ strategy, store.Serves (.update strategy context object) →
        (store.updateWith strategy context object).run backend = (.ok result, after) →
        ∃ key final, store.Writes backend after key final result ∧
          store.Placed context object key result)) := by
  refine ⟨?_, ?_, ?_⟩
  · intro backend after context object result done
    obtain ⟨space, settled, _, writes⟩ := create_writes done
    exact ⟨space, settled, writes, writes.placed_new_iff settled⟩
  · intro strategy backend after context object result done
    obtain ⟨space, settled, segment, replaced | created⟩ := updateWith_writes done
    · obtain ⟨current, stored, version, found, readable, _, writes⟩ := replaced
      exact ⟨space, settled, Or.inl ⟨current, stored, version, found, readable, writes,
        writes.placed_change_iff settled segment⟩⟩
    · exact ⟨space, settled, Or.inr created⟩
  · intro keeps backend after context object result reachable
    exact ⟨create_placed keeps, fun strategy serves =>
      updateWith_placed keeps (reachable.orderly keeps) serves⟩

section Movers

open Catalog

def movers : Store MoverSpec MoverStatus :=
  .ofKind mover moverCapabilities

/-- The hook takes this mover to a namespace that is no part of a key. -/
def escapingMover : Mover :=
  { Object.empty mover with metadata := { name := "a" }, spec.renamespace := "x/y" }

def escapedMover : Mover :=
  { escapingMover with metadata.space := "x/y" }

def insideSpace : Context :=
  { requestedSpace := some "ns" }

/-- So it is stored there, although the request was for another namespace. -/
theorem escapingMover_not_placed :
    (movers.create insideSpace escapingMover).run .empty = (.ok (escapedMover.withVersion "1"),
      Backend.empty.put (movers.objectKey escapedMover) (movers.document .empty escapedMover)) ∧
    ¬ movers.Placed insideSpace escapingMover (movers.objectKey escapedMover)
      (escapedMover.withVersion "1") := by
  have done : (movers.create insideSpace escapingMover).run .empty =
      (.ok (escapedMover.withVersion "1"), Backend.empty.put (movers.objectKey escapedMover)
        (movers.document .empty escapedMover)) := rfl
  obtain ⟨space, settled, _, placed⟩ := (@placed_iff_hooks_keep_address _ _ movers).1 done
  obtain rfl : "ns" = space := Except.ok.inj settled
  refine ⟨done, fun inPlace => ?_⟩
  have kept : "x/y" = "ns" := (placed.1 inPlace).1
  exact absurd kept (by decide)

end Movers

end ResourceApi.Store
