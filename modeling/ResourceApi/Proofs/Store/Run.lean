/-
This file says what the requests of a store do to a backend when each runs alone: a request fails
and changes nothing, or it writes one document or removes one.
-/

import ResourceApi.Proofs.Backend.Effect
import ResourceApi.Proofs.Store.Checks

namespace ResourceApi.Store

variable {Spec Status : Type} {store : Store Spec Status} {backend : Backend}

/-- The document that holds the object once the backend has stored it. -/
def document (store : Store Spec Status) (backend : Backend) (object : Object Spec Status) : Json :=
  (object.withVersion backend.nextVersion).write store.kind

theorem write_object (key : String) (object : Object Spec Status) :
    backend.write key (object.write store.kind) =
      (.ok (store.document backend object), backend.put key (store.document backend object)) :=
  Backend.write_eq_of_stamp (Backend.stamp_write store.kind object (backend.revision + 1))

/-- The object comes back with its new version. -/
theorem read_document (faithful : store.kind.Faithful) (object : Object Spec Status) :
    store.read (store.document backend object) = .ok (object.withVersion backend.nextVersion) :=
  read_eq_ok_iff.2 (Object.read_write_of_faithful faithful _)

/-- A new object that passes the checks is stored where there is none. -/
theorem create_run_of_absent {context : Context} {object admitted : Object Spec Status}
    (accepted : store.accept context object = .ok admitted)
    (absent : backend.items.get? (store.objectKey admitted) = none) :
    (store.create context object).run backend =
      (store.read (store.document backend admitted),
        backend.put (store.objectKey admitted) (store.document backend admitted)) := by
  simp only [create, accepted, Request.run_call, Backend.answer,
    Backend.create_eq_of_absent absent, write_object, Request.run_done, readReply]

/-- Otherwise a creation fails and changes nothing. -/
theorem create_cases (context : Context) (object : Object Spec Status) (backend : Backend) :
    (∃ error, (store.create context object).run backend = (.error error, backend)) ∨
    (∃ admitted, store.accept context object = .ok admitted ∧
      backend.items.get? (store.objectKey admitted) = none ∧
      (store.create context object).run backend =
        (store.read (store.document backend admitted),
          backend.put (store.objectKey admitted) (store.document backend admitted))) := by
  cases accepted : store.accept context object with
  | error error => exact Or.inl ⟨error, by rw [create, accepted, Request.run_done]⟩
  | ok admitted =>
      cases found : backend.items.get? (store.objectKey admitted) with
      | none => exact Or.inr ⟨admitted, rfl, found, create_run_of_absent accepted found⟩
      | some current =>
          refine Or.inl ⟨.alreadyExists store.resource admitted.metadata.name, ?_⟩
          simp only [create, accepted, Request.run_call, Backend.answer,
            Backend.create_eq_of_present found, Request.run_done, readReply, backendError]

/-- An object replaces the stored one where checks and version allow it. -/
theorem replace_cases (strategy : UpdateStrategy Spec Status) (context : Context) {key : String}
    (target : Object Spec Status) {current : Json}
    (found : backend.items.get? key = some current) :
    (∃ error, (store.replace strategy context key target current).run backend =
      (.error error, backend)) ∨
    (∃ stored version replacing, store.read current = .ok stored ∧
      store.replacement strategy context target stored = .ok (version, replacing) ∧
      Backend.documentVersion current = version ∧
      (store.replace strategy context key target current).run backend =
        (store.read (store.document backend replacing),
          backend.put key (store.document backend replacing))) := by
  unfold replace
  cases readable : store.read current with
  | error error => exact Or.inl ⟨error, rfl⟩
  | ok stored =>
      cases replaced : store.replacement strategy context target stored with
      | error error => exact Or.inl ⟨error, by simp only [replaced, Request.run_done]⟩
      | ok pair =>
          obtain ⟨version, replacing⟩ := pair
          by_cases same : Backend.documentVersion current = version
          · refine Or.inr ⟨stored, version, replacing, rfl, replaced, same, ?_⟩
            simp only [replaced, Request.run_call, Backend.answer,
              Backend.update_eq_of_version found same, write_object, Request.run_done, readReply]
          · refine Or.inl ⟨.outdated store.resource replacing.metadata.name, ?_⟩
            simp only [replaced, Request.run_call, Backend.answer,
              Backend.update_eq_of_conflict found same, Request.run_done, readReply, backendError]

theorem updateWith_run_of_present (strategy : UpdateStrategy Spec Status) (context : Context)
    {object target : Object Spec Status} {current : Json}
    (targeted : store.target context object = .ok target)
    (found : backend.items.get? (store.objectKey target) = some current) :
    (store.updateWith strategy context object).run backend =
      (store.replace strategy context (store.objectKey target) target current).run backend := by
  simp only [updateWith, targeted, Request.run_call, Backend.answer, Backend.get, found]

theorem updateWith_run_of_absent (strategy : UpdateStrategy Spec Status) (context : Context)
    {object target : Object Spec Status} (targeted : store.target context object = .ok target)
    (absent : backend.items.get? (store.objectKey target) = none) :
    (store.updateWith strategy context object).run backend =
      if strategy.allowCreateOnUpdate = true then
        (store.create context (target.withVersion "")).run backend
      else (.error (.notFound store.resource target.metadata.name), backend) := by
  simp only [updateWith, targeted, Request.run_call, Backend.answer, Backend.get, absent,
    BackendError.isNotFound, true_and]
  split <;> rfl

/-- An update replaces a stored object, or creates one where that is allowed. -/
theorem updateWith_cases (strategy : UpdateStrategy Spec Status) (context : Context)
    (object : Object Spec Status) (backend : Backend) :
    (∃ error, (store.updateWith strategy context object).run backend = (.error error, backend)) ∨
    (∃ target current stored version replacing,
      store.target context object = .ok target ∧
      backend.items.get? (store.objectKey target) = some current ∧
      store.read current = .ok stored ∧
      store.replacement strategy context target stored = .ok (version, replacing) ∧
      Backend.documentVersion current = version ∧
      (store.updateWith strategy context object).run backend =
        (store.read (store.document backend replacing),
          backend.put (store.objectKey target) (store.document backend replacing))) ∨
    (∃ target, store.target context object = .ok target ∧
      backend.items.get? (store.objectKey target) = none ∧
      strategy.allowCreateOnUpdate = true ∧
      (store.updateWith strategy context object).run backend =
        (store.create context (target.withVersion "")).run backend) := by
  cases targeted : store.target context object with
  | error error => exact Or.inl ⟨error, by rw [updateWith, targeted, Request.run_done]⟩
  | ok target =>
      cases found : backend.items.get? (store.objectKey target) with
      | none =>
          rw [updateWith_run_of_absent strategy context targeted found]
          by_cases allowed : strategy.allowCreateOnUpdate = true
          · exact Or.inr (Or.inr ⟨target, rfl, found, allowed, if_pos allowed⟩)
          · exact Or.inl ⟨_, if_neg allowed⟩
      | some current =>
          rw [updateWith_run_of_present strategy context targeted found]
          rcases replace_cases strategy context target found with
            failed | ⟨stored, version, replacing, readable, replaced, same, run⟩
          · exact Or.inl failed
          · exact Or.inr (Or.inl ⟨target, current, stored, version, replacing, rfl, found, readable,
              replaced, same, run⟩)

section Writes

variable {strategy : UpdateStrategy Spec Status} {after : Backend} {context : Context}
  {object result : Object Spec Status}

/-- The backend holds the object from now on, and nothing else has changed. -/
structure Writes (store : Store Spec Status) (backend after : Backend) (key : String)
    (object result : Object Spec Status) : Prop where
  after : after = backend.put key (store.document backend object)
  read : store.read (store.document backend object) = .ok result

/-- The answer has the address of what was written. -/
theorem Writes.address {key : String} (writes : store.Writes backend after key object result) :
    result.address = object.address := by
  have metadata : result.metadata = (object.withVersion backend.nextVersion).metadata :=
    Object.metadata_of_read_write (read_eq_ok_iff.1 writes.read)
  rw [Object.address, metadata]
  rfl

theorem create_writes (done : (store.create context object).run backend = (.ok result, after)) :
    ∃ space, store.resolveSpace context object.metadata.space = .ok space ∧
      store.accept context object = .ok (store.finalNew context object space) ∧
      store.Writes backend after (store.objectKey (store.finalNew context object space))
        (store.finalNew context object space) result := by
  rcases create_cases context object backend with ⟨_, run⟩ | ⟨admitted, accepted, _, run⟩
  · rw [run] at done
    cases done
  · rw [run] at done
    obtain ⟨readable, put⟩ := Prod.mk.inj done
    have whole := accepted
    obtain ⟨space, settled, _, _, _, rfl⟩ := accept_eq_ok_iff.1 accepted
    exact ⟨space, settled, whole, put.symm, readable⟩

/-- An update writes over what is there, or it is a creation. -/
theorem updateWith_writes
    (done : (store.updateWith strategy context object).run backend = (.ok result, after)) :
    ∃ space, store.resolveSpace context object.metadata.space = .ok space ∧
      IsSegment object.metadata.name ∧
      ((∃ current stored version,
          backend.items.get? (store.key space object.metadata.name) = some current ∧
          store.read current = .ok stored ∧
          store.replacement strategy context (object.withSpace space) stored = .ok (version,
            store.finalChange strategy context (object.withSpace space) stored version) ∧
          store.Writes backend after (store.key space object.metadata.name)
            (store.finalChange strategy context (object.withSpace space) stored version) result) ∨
        backend.items.get? (store.key space object.metadata.name) = none ∧
          (store.create context ((object.withSpace space).withVersion "")).run backend =
            (.ok result, after)) := by
  rcases updateWith_cases strategy context object backend with
    ⟨_, run⟩ |
    ⟨target, current, stored, version, replacing, targeted, found, readable, replaced, _, run⟩ |
    ⟨target, targeted, absent, _, run⟩
  · rw [run] at done
    cases done
  · rw [run] at done
    obtain ⟨answered, put⟩ := Prod.mk.inj done
    obtain ⟨segment, space, settled, rfl⟩ := target_eq_ok_iff.1 targeted
    have whole := replaced
    obtain ⟨_, _, rfl⟩ := replacement_eq_ok_iff.1 replaced
    exact ⟨space, settled, segment, Or.inl ⟨current, stored, version, found, readable, whole,
      put.symm, answered⟩⟩
  · obtain ⟨segment, space, settled, rfl⟩ := target_eq_ok_iff.1 targeted
    rw [run] at done
    exact ⟨space, settled, segment, Or.inr ⟨absent, done⟩⟩

end Writes

/-- A document that is there is removed before it is read. -/
theorem delete_run_of_held {context : Context} {address : Address} {key : String}
    {document : Json} (addressed : store.addressKey context address = .ok key)
    (held : backend.items.get? key = some document) :
    (store.delete context address).run backend = (store.read document, backend.remove key) := by
  simp only [delete, addressed, Request.run_call, Backend.answer, Backend.delete, held,
    Request.run_done, readReply]
  rfl

theorem delete_cases (context : Context) (address : Address) (backend : Backend) :
    (∃ error, (store.delete context address).run backend = (.error error, backend)) ∨
    (∃ key current, store.addressKey context address = .ok key ∧
      backend.items.get? key = some current ∧
      (store.delete context address).run backend =
        (store.read current, backend.remove key)) := by
  cases addressed : store.addressKey context address with
  | error error => exact Or.inl ⟨error, by rw [delete, addressed, Request.run_done]⟩
  | ok key =>
      cases found : backend.items.get? key with
      | none =>
          refine Or.inl ⟨.notFound store.resource address.name, ?_⟩
          simp only [delete, addressed, Request.run_call, Backend.answer, Backend.delete, found,
            Request.run_done, readReply, backendError]
      | some current => exact Or.inr ⟨key, current, rfl, found, delete_run_of_held addressed found⟩

/-- A lookup changes nothing. -/
theorem get_run (context : Context) (address : Address) (backend : Backend) :
    (store.get context address).run backend =
      (match store.addressKey context address with
        | .error error => .error error
        | .ok key => store.readReply address.name (backend.get key), backend) := by
  unfold get
  cases store.addressKey context address <;> rfl

/-- A listing changes nothing. -/
theorem list_run (scope : ListScope) (filter : ListFilter) (backend : Backend) :
    ((store.list scope filter).run backend).2 = backend := by
  unfold list
  cases Predicate.ofFilter filter with
  | error cause => rfl
  | ok predicate => cases store.listRoot scope <;> rfl

end ResourceApi.Store
