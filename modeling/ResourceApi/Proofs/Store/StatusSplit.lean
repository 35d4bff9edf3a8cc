/-
This file shows that a kind with a status of its own is split between two endpoints. The main
endpoint does not see the status of what it is given, and the status endpoint sees nothing else.
-/

import ResourceApi.Endpoint
import ResourceApi.Proofs.Catalog
import ResourceApi.Proofs.Store.Run

namespace ResourceApi

/-- The objects have one address and name one version. -/
structure Object.SameTarget {Spec Status : Type} (first second : Object Spec Status) : Prop where
  name : first.metadata.name = second.metadata.name
  space : first.metadata.space = second.metadata.space
  version : first.metadata.resourceVersion = second.metadata.resourceVersion

namespace Store

variable {Spec Status : Type} {store : Store Spec Status} {backend : Backend}
  {strategy : UpdateStrategy Spec Status} {context : Context}
  {object first second stored : Object Spec Status}

/-- Wherever the request leads, there is a document. -/
def Present (store : Store Spec Status) (backend : Backend) (context : Context)
    (object : Object Spec Status) : Prop :=
  ∀ space, store.resolveSpace context object.metadata.space = .ok space →
    ∃ document, backend.items.get? (store.key space object.metadata.name) = some document

/-- Only through what it prepares does an update depend on the rest of its object. -/
theorem replacement_congr (same : first.SameTarget second)
    (proposals : ∀ version, store.proposed strategy context first stored version =
      store.proposed strategy context second stored version) :
    store.replacement strategy context first stored =
      store.replacement strategy context second stored := by
  have versions : store.replacedVersion strategy first stored =
      store.replacedVersion strategy second stored := by
    unfold replacedVersion
    rw [same.name, same.version]
  unfold replacement
  rw [versions]
  cases store.replacedVersion strategy second stored with
  | error error => rfl
  | ok version =>
      have prepared := proposals version
      unfold proposed at prepared
      simp only [prepared]

/-- Whether there is a target does not depend on the rest of the object. -/
theorem target_congr (same : first.SameTarget second) :
    (∃ error, store.target context first = .error error ∧
      store.target context second = .error error) ∨
    (∃ space, store.resolveSpace context first.metadata.space = .ok space ∧
      store.target context first = .ok (first.withSpace space) ∧
      store.target context second = .ok (second.withSpace space)) := by
  unfold Store.target
  rw [same.name, same.space]
  cases store.resolveSpace context second.metadata.space with
  | error error => exact Or.inl ⟨error, rfl, rfl⟩
  | ok space =>
      by_cases empty : second.metadata.name = ""
      · exact Or.inl ⟨_, if_pos empty, if_pos empty⟩
      · simp only [if_neg empty]
        cases store.checkName second.metadata.name with
        | error error => exact Or.inl ⟨error, rfl, rfl⟩
        | ok passed => exact Or.inr ⟨space, rfl, rfl, rfl⟩

/-- Two updates of a stored object cannot be told apart if they prepare the same. -/
theorem updateWith_run_congr (same : first.SameTarget second)
    (present : store.Present backend context first)
    (proposals : ∀ space stored version,
      store.proposed strategy context (first.withSpace space) stored version =
        store.proposed strategy context (second.withSpace space) stored version) :
    (store.updateWith strategy context first).run backend =
      (store.updateWith strategy context second).run backend := by
  rcases @target_congr _ _ store context _ _ same with
    ⟨error, firstFailed, secondFailed⟩ | ⟨space, settled, firstTarget, secondTarget⟩
  · simp only [updateWith, firstFailed, secondFailed]
  · have key : store.objectKey (first.withSpace space) =
        store.objectKey (second.withSpace space) :=
      congrArg (store.key space) same.name
    obtain ⟨current, found⟩ := present space settled
    have sameRest : (first.withSpace space).SameTarget (second.withSpace space) :=
      ⟨same.name, rfl, same.version⟩
    have programs : store.replace strategy context (store.objectKey (first.withSpace space))
          (first.withSpace space) current =
        store.replace strategy context (store.objectKey (second.withSpace space))
          (second.withSpace space) current := by
      unfold replace
      rw [key]
      cases store.read current with
      | error error => rfl
      | ok stored => simp only [replacement_congr sameRest (proposals space stored)]
    rw [updateWith_run_of_present strategy context firstTarget found, programs]
    rw [← updateWith_run_of_present strategy context secondTarget (by rw [← key]; exact found)]

/-- This is the object that a plain update of the main endpoint stores. -/
def mainCommit (store : Store Spec Status) (backend : Backend) (space : String)
    (object stored : Object Spec Status) : Object Spec Status where
  apiVersion := store.kind.apiVersion
  kind := store.kind.name
  metadata := { object.metadata with space := space, resourceVersion := backend.nextVersion }
  spec := object.spec
  status := stored.status

/-- This is the object that a plain update of the status endpoint stores. -/
def statusCommit (backend : Backend) (object stored : Object Spec Status) : Object Spec Status where
  apiVersion := stored.apiVersion
  kind := stored.kind
  metadata := { stored.metadata with resourceVersion := backend.nextVersion }
  spec := stored.spec
  status := object.status

/-- An update that succeeds answers and stores what it has prepared. -/
theorem updateWith_commits (faithful : store.kind.Faithful) {space : String} {current : Json}
    {result : Object Spec Status} {after : Backend}
    (settled : store.resolveSpace context object.metadata.space = .ok space)
    (found : backend.items.get? (store.key space object.metadata.name) = some current)
    (readable : store.read current = .ok stored)
    (done : (store.updateWith strategy context object).run backend = (.ok result, after)) :
    ∃ version, result = (store.finalChange strategy context (object.withSpace space) stored
        version).withVersion backend.nextVersion ∧
      after = backend.put (store.key space object.metadata.name) (result.write store.kind) := by
  obtain ⟨other, otherSettled, _, replaced | ⟨absent, _⟩⟩ := updateWith_writes done
  · obtain ⟨old, seen, version, holds, seenReadable, _, writes⟩ := replaced
    obtain rfl : space = other := Except.ok.inj (settled.symm.trans otherSettled)
    obtain rfl : current = old := Option.some.inj (found.symm.trans holds)
    obtain rfl : stored = seen := Except.ok.inj (readable.symm.trans seenReadable)
    have answered := writes.read
    rw [read_document faithful] at answered
    cases answered
    exact ⟨version, rfl, writes.after⟩
  · obtain rfl : space = other := Except.ok.inj (settled.symm.trans otherSettled)
    rw [found] at absent
    cases absent

section Split

variable (copies : store.strategy.capabilities.copyStatus = some Capabilities.copyWholeStatus)
  (status : store.statusStrategy? = some strategy)

include copies

/-- The stored status takes the place of the one that came. -/
theorem proposed_main (version : String) :
    store.proposed store.strategy.update context object stored version =
      let kept := { (object.withVersion version).withKind store.kind with status := stored.status }
      match store.strategy.capabilities.prepareForUpdate with
      | some prepare => prepare context kept stored
      | none => kept := by
  simp only [proposed, Strategy.update, Strategy.prepareForUpdate, Strategy.keepStatus, copies]
  rfl

include status

/-- The stored object takes the place of the one that came, with its status. -/
theorem proposed_status (version : String) :
    store.proposed strategy context object stored version =
      let merged := { stored with status := object.status }
      match store.strategy.capabilities.prepareForUpdate with
      | some prepare => prepare context merged merged
      | none => merged := by
  rw [statusStrategy?, copies] at status
  obtain rfl := Option.some.inj status
  simp only [proposed, UpdateStrategy.ofStatus, UpdateStrategy.overridden, Strategy.update,
    Strategy.prepareForUpdate, Strategy.keepStatus, copies]
  rfl

end Split

/-- The main endpoint ignores an incoming status, and the status endpoint all else. -/
theorem status_split
    (copies : store.strategy.capabilities.copyStatus = some Capabilities.copyWholeStatus)
    (status : store.statusStrategy? = some strategy) :
    (∀ (backend : Backend) (context : Context) (object : Object Spec Status) (other : Status),
      store.Present backend context object →
      (store.update context { object with status := other }).run backend =
        (store.update context object).run backend) ∧
    (∀ (backend : Backend) (context : Context) (first second : Object Spec Status),
      store.Present backend context first →
      first.SameTarget second → first.status = second.status →
      (store.updateWith strategy context first).run backend =
        (store.updateWith strategy context second).run backend) ∧
    (store.strategy.capabilities.prepareForUpdate = none →
      store.strategy.capabilities.canonicalize = none →
      store.kind.Faithful →
      ∀ {backend after : Backend} {context : Context} {object stored result : Object Spec Status}
        {space : String} {current : Json},
        store.resolveSpace context object.metadata.space = .ok space →
        backend.items.get? (store.key space object.metadata.name) = some current →
        store.read current = .ok stored →
        ((store.update context object).run backend = (.ok result, after) →
          result = store.mainCommit backend space object stored ∧
          after = backend.put (store.key space object.metadata.name) (result.write store.kind)) ∧
        ((store.updateWith strategy context object).run backend = (.ok result, after) →
          result = statusCommit backend object stored ∧
          after = backend.put (store.key space object.metadata.name)
            (result.write store.kind))) := by
  refine ⟨?_, ?_, ?_⟩
  · intro backend context object other present
    have same : Object.SameTarget { object with status := other } object := ⟨rfl, rfl, rfl⟩
    refine updateWith_run_congr same present ?_
    intro space stored version
    rw [proposed_main copies, proposed_main copies]
    rfl
  · intro backend context first second present same sameStatus
    refine updateWith_run_congr same present ?_
    intro space stored version
    rw [proposed_status copies status, proposed_status copies status]
    have kept : (first.withSpace space).status = (second.withSpace space).status := sameStatus
    rw [kept]
  · intro noHook noCanonicalizer faithful backend after context object stored result space current
      settled found readable
    have unchanged (object : Object Spec Status) : store.strategy.canonicalize object = object := by
      rw [Strategy.canonicalize, noCanonicalizer]
    constructor
    · intro done
      obtain ⟨version, equal, put⟩ := updateWith_commits faithful settled found readable done
      refine ⟨?_, put⟩
      rw [equal, finalChange, proposed_main copies, noHook]
      exact congrArg (Object.withVersion · _) (unchanged _)
    · intro done
      obtain ⟨version, equal, put⟩ := updateWith_commits faithful settled found readable done
      refine ⟨?_, put⟩
      rw [equal, finalChange, proposed_status copies status, noHook]
      rw [statusStrategy?, copies] at status
      obtain rfl := Option.some.inj status
      exact congrArg (Object.withVersion · _) (unchanged _)

section Gadgets

open Catalog

def gadgets : Store GadgetSpec GadgetStatus :=
  .ofKind gadget gadgetCapabilities

def storedGadget : Gadget :=
  { Object.empty gadget with
    metadata := { name := "a", space := "b" }, spec.size := 1, status.phase := "old" }

/-- This gadget has another specification and another status. -/
def changedGadget : Gadget :=
  { storedGadget with spec.size := 2, status.phase := "new" }

def gadgetBackend : Backend :=
  Backend.empty.put (gadgets.key "b" "a") (gadgets.document .empty storedGadget)

theorem present_changedGadget : gadgets.Present gadgetBackend {} changedGadget := by
  intro space settled
  have same : space = "b" := (Except.ok.inj settled).symm
  exact ⟨_, by rw [same]; rfl⟩

/-- The two endpoints of gadgets share out what they change. -/
theorem status_split_gadgets :
    (gadgets.update {} storedGadget).run gadgetBackend =
      (gadgets.update {} { storedGadget with status.phase := "new" }).run gadgetBackend ∧
    (gadgets.updateWith (gadgets.strategy.update.ofStatus Capabilities.copyWholeStatus) {}
        changedGadget).run gadgetBackend =
      (gadgets.updateWith (gadgets.strategy.update.ofStatus Capabilities.copyWholeStatus) {}
        { storedGadget with status.phase := "new" }).run gadgetBackend ∧
    ∃ result after, (gadgets.update {} changedGadget).run gadgetBackend = (.ok result, after) ∧
      result.spec.size = 2 ∧ result.status.phase = "old" := by
  obtain ⟨main, status, commits⟩ := @status_split _ _ gadgets
    (gadgets.strategy.update.ofStatus Capabilities.copyWholeStatus) rfl rfl
  refine ⟨(main _ _ storedGadget ⟨"new"⟩ present_changedGadget).symm,
    status _ _ _ _ present_changedGadget ⟨rfl, rfl, rfl⟩ rfl, ?_⟩
  have done : (gadgets.update {} changedGadget).run gadgetBackend =
      (.ok (gadgets.mainCommit gadgetBackend "b" changedGadget (storedGadget.withVersion "1")),
        _) := rfl
  have readable : gadgets.read (gadgets.document .empty storedGadget) =
      .ok (storedGadget.withVersion "1") := rfl
  obtain ⟨equal, _⟩ := (commits rfl rfl gadget_faithful rfl rfl readable).1 done
  refine ⟨_, _, done, ?_, ?_⟩
  · rw [equal]
    rfl
  · rw [equal]
    rfl

end Gadgets

end Store

end ResourceApi
