/-
This file defines the backends that the requests of one kind can lead to. If the hooks of the kind
leave addresses alone, then every document stands under the key that its own address makes.
-/

import ResourceApi.Endpoint
import ResourceApi.Proofs.Store.Visit

namespace ResourceApi

/-- The hooks of the kind may change everything but addresses. -/
structure Strategy.KeepsAddress {Spec Status : Type} (strategy : Strategy Spec Status) : Prop where
  prepareForCreate : ∀ hook, strategy.capabilities.prepareForCreate = some hook →
    ∀ context object, (hook context object).address = object.address
  prepareForUpdate : ∀ hook, strategy.capabilities.prepareForUpdate = some hook →
    ∀ context object stored, (hook context object stored).address = object.address
  canonicalize : ∀ hook, strategy.capabilities.canonicalize = some hook →
    ∀ object, (hook object).address = object.address
  copyStatus : ∀ hook, strategy.capabilities.copyStatus = some hook →
    ∀ source target, (hook source target).address = target.address

namespace Strategy.KeepsAddress

variable {Spec Status : Type} {strategy : Strategy Spec Status}

theorem address_prepareForCreate (keeps : strategy.KeepsAddress) (context : Context)
    (object : Object Spec Status) :
    (strategy.prepareForCreate context object).address = object.address := by
  unfold Strategy.prepareForCreate
  split
  next hook chosen => exact keeps.prepareForCreate hook chosen context object
  · rfl

theorem address_canonicalize (keeps : strategy.KeepsAddress) (object : Object Spec Status) :
    (strategy.canonicalize object).address = object.address := by
  unfold Strategy.canonicalize
  split
  next hook chosen => exact keeps.canonicalize hook chosen object
  · rfl

theorem address_prepareForUpdate (keeps : strategy.KeepsAddress) (context : Context)
    (object stored : Object Spec Status) :
    (strategy.prepareForUpdate context object stored).address = object.address := by
  have kept : (strategy.keepStatus object stored).address = object.address := by
    unfold Strategy.keepStatus
    split
    next copy chosen => exact keeps.copyStatus copy chosen stored object
    · rfl
  unfold Strategy.prepareForUpdate
  split
  next hook chosen => exact (keeps.prepareForUpdate hook chosen _ _ _).trans kept
  · exact kept

end Strategy.KeepsAddress

namespace Store

variable {Spec Status : Type} {store : Store Spec Status}

/-- These are the requests to the two endpoints of the store. -/
def Serves (store : Store Spec Status) : Visit Spec Status → Prop
  | .update strategy _ _ =>
      strategy = store.strategy.update ∨ store.statusStrategy? = some strategy
  | _ => True

/-- The backend was empty at first, and since then only the store was visited. -/
inductive Reachable (store : Store Spec Status) : Backend → Prop
  | empty : Reachable store .empty
  | visit {backend : Backend} (visit : Visit Spec Status) (serves : store.Serves visit)
      (reachable : Reachable store backend) :
      Reachable store ((store.request visit).run backend).2

/-- The object can stand under the key. -/
structure Fits (store : Store Spec Status) (key : String) (object : Object Spec Status) :
    Prop where
  space : store.Scopes object.metadata.space
  name : IsSegment object.metadata.name
  key : key = store.objectKey object

/-- Every document is an object that fits its key. -/
def Orderly (store : Store Spec Status) (backend : Backend) : Prop :=
  ∀ key document, backend.items.get? key = some document →
    ∃ object, store.Fits key object ∧ document = object.write store.kind

theorem orderly_empty : store.Orderly .empty := by
  intro key document found
  cases found

variable {backend : Backend} {key : String} {object : Object Spec Status}

theorem Orderly.put (orderly : store.Orderly backend) (fits : store.Fits key object) :
    store.Orderly (backend.put key (store.document backend object)) := by
  intro sought document found
  rw [Backend.put_get?] at found
  split at found
  next same =>
    cases found
    exact ⟨object.withVersion backend.nextVersion, ⟨fits.space, fits.name, same.trans fits.key⟩,
      rfl⟩
  · exact orderly sought document found

theorem Orderly.write (orderly : store.Orderly backend) (fits : store.Fits key object) :
    store.Orderly (backend.write key (object.write store.kind)).2 := by
  rw [write_object]
  exact orderly.put fits

theorem Orderly.remove (orderly : store.Orderly backend) (key : String) :
    store.Orderly (backend.remove key) := by
  intro sought document found
  rw [Backend.remove_get?] at found
  split at found
  · cases found
  · exact orderly sought document found

/-- A name may be generated, but the namespace stays. -/
theorem space_prepared (keeps : store.strategy.KeepsAddress) (context : Context)
    (object : Object Spec Status) (space : String) :
    (store.prepared context object space).metadata.space = space := by
  have address := keeps.address_prepareForCreate context (object.withSpace space)
  have kept := congrArg Address.space address
  unfold prepared nameNew
  split
  · exact kept
  · exact kept

/-- A new object fits the key that it is stored under. -/
theorem accept_fits (keeps : store.strategy.KeepsAddress) {context : Context}
    {admitted : Object Spec Status} (accepted : store.accept context object = .ok admitted) :
    store.resolveSpace context object.metadata.space = .ok admitted.metadata.space ∧
      store.Fits (store.objectKey admitted) admitted := by
  obtain ⟨space, settled, _, segment, _, rfl⟩ := accept_eq_ok_iff.1 accepted
  have address : (store.finalNew context object space).address =
      (store.prepared context object space).address := keeps.address_canonicalize _
  generalize store.finalNew context object space = admitted at address ⊢
  obtain ⟨sameName, sameSpace⟩ := Object.address_eq_iff.1 address
  rw [space_prepared keeps] at sameSpace
  refine ⟨by rw [sameSpace, settled], ?_, ?_, rfl⟩
  · rw [sameSpace]
    exact scopes_of_resolveSpace settled
  · rw [sameName]
    exact segment

/-- An object in its settled namespace fits the key that it makes with a legal name. -/
theorem fits_withSpace {context : Context} {space : String}
    (settled : store.resolveSpace context object.metadata.space = .ok space)
    (segment : IsSegment object.metadata.name) :
    store.Fits (store.key space object.metadata.name) (object.withSpace space) :=
  ⟨scopes_of_resolveSpace settled, segment, rfl⟩

/-- The target of an update fits its key. -/
theorem target_fits {context : Context} {target : Object Spec Status}
    (targeted : store.target context object = .ok target) :
    store.Fits (store.objectKey target) target := by
  obtain ⟨segment, space, settled, rfl⟩ := target_eq_ok_iff.1 targeted
  have fits := fits_withSpace settled segment
  exact fits

/-- At most one address fits a key. -/
theorem Fits.address_eq {other : Object Spec Status} (fits : store.Fits key object)
    (otherFits : store.Fits key other) : object.address = other.address := by
  obtain ⟨sameSpace, sameName⟩ :=
    key_inj fits.space otherFits.space (fits.key.symm.trans otherFits.key)
  exact Object.address_eq_iff.2 ⟨sameName, sameSpace⟩

theorem objectKey_congr {first second : Object Spec Status}
    (same : first.address = second.address) :
    store.objectKey first = store.objectKey second := by
  obtain ⟨sameName, sameSpace⟩ := Object.address_eq_iff.1 same
  unfold objectKey
  rw [sameName, sameSpace]

/-- What fits a key depends on the address only. -/
theorem Fits.of_address {other : Object Spec Status} (fits : store.Fits key object)
    (same : other.address = object.address) : store.Fits key other := by
  obtain ⟨sameName, sameSpace⟩ := Object.address_eq_iff.1 same
  exact ⟨sameSpace.symm ▸ fits.space, sameName.symm ▸ fits.name,
    fits.key.trans (objectKey_congr same.symm)⟩

/-- What is read at a key fits it. -/
theorem Orderly.fits_of_read (orderly : store.Orderly backend) {document : Json}
    (found : backend.items.get? key = some document) (readable : store.read document = .ok object) :
    store.Fits key object := by
  obtain ⟨written, fits, rfl⟩ := orderly key document found
  have metadata := Object.metadata_of_read_write (read_eq_ok_iff.1 readable)
  exact fits.of_address (congrArg ObjectMeta.address metadata)

/-- An update leaves the address as it is. -/
theorem replacement_address (keeps : store.strategy.KeepsAddress)
    {strategy : UpdateStrategy Spec Status} {context : Context}
    {target stored replacing : Object Spec Status} {version : String}
    (serves : strategy = store.strategy.update ∨ store.statusStrategy? = some strategy)
    (same : stored.address = target.address)
    (replaced : store.replacement strategy context target stored = .ok (version, replacing)) :
    replacing.address = target.address := by
  obtain ⟨_, _, rfl⟩ := replacement_eq_ok_iff.1 replaced
  rcases serves with rfl | status
  · exact (keeps.address_canonicalize _).trans (keeps.address_prepareForUpdate _ _ _)
  · obtain ⟨copy, chosen, rfl⟩ := Option.map_eq_some_iff.1 status
    calc
      _ = (store.proposed (store.strategy.update.ofStatus copy) context target stored
          version).address := keeps.address_canonicalize _
      _ = (copy ((target.withVersion version).withKind store.kind) stored).address :=
        keeps.address_prepareForUpdate _ _ _
      _ = stored.address := keeps.copyStatus copy chosen _ _
      _ = target.address := same

/-- A creation needs no more than that its object fits the key. -/
theorem create_keeps (keeps : store.strategy.KeepsAddress) (context : Context)
    (object : Object Spec Status) : (store.create context object).Keeps store.Orderly := by
  unfold create
  cases accepted : store.accept context object with
  | error error => exact trivial
  | ok admitted =>
      intro backend orderly
      refine ⟨?_, trivial⟩
      cases found : backend.items.get? (store.objectKey admitted) with
      | none =>
          rw [Backend.answer, Backend.create_eq_of_absent found]
          exact orderly.write (accept_fits keeps accepted).2
      | some current =>
          rw [Backend.answer, Backend.create_eq_of_present found]
          exact orderly

theorem delete_keeps (context : Context) (address : Address) :
    (store.delete context address).Keeps store.Orderly := by
  unfold delete
  split
  · exact trivial
  next key addressed =>
    intro backend orderly
    refine ⟨?_, trivial⟩
    cases found : backend.items.get? key with
    | none =>
        simp only [Backend.answer, Backend.delete, found]
        exact orderly
    | some current =>
        simp only [Backend.answer, Backend.delete, found]
        exact orderly.remove key

/-- A document that was read long ago has the address of its key. -/
theorem replace_keeps (keeps : store.strategy.KeepsAddress)
    {strategy : UpdateStrategy Spec Status}
    (serves : strategy = store.strategy.update ∨ store.statusStrategy? = some strategy)
    {context : Context} (fits : store.Fits key object) {document : Json}
    (read : ∀ stored, store.read document = .ok stored → store.Fits key stored) :
    (store.replace strategy context key object document).Keeps store.Orderly := by
  unfold replace
  cases readable : store.read document with
  | error error => exact trivial
  | ok stored =>
      cases replaced : store.replacement strategy context object stored with
      | error error => simp only [replaced, Request.Keeps]
      | ok pair =>
          obtain ⟨version, replacing⟩ := pair
          have same := (read stored readable).address_eq fits
          have fitting := fits.of_address (replacement_address keeps serves same replaced)
          simp only [replaced]
          intro backend orderly
          refine ⟨?_, trivial⟩
          cases found : backend.items.get? key with
          | none =>
              rw [Backend.answer, Backend.update_eq_of_absent found]
              exact orderly
          | some current =>
              by_cases carries : Backend.documentVersion current = version
              · rw [Backend.answer, Backend.update_eq_of_version found carries]
                exact orderly.write fitting
              · rw [Backend.answer, Backend.update_eq_of_conflict found carries]
                exact orderly

theorem updateWith_keeps (keeps : store.strategy.KeepsAddress)
    {strategy : UpdateStrategy Spec Status}
    (serves : strategy = store.strategy.update ∨ store.statusStrategy? = some strategy)
    (context : Context) (object : Object Spec Status) :
    (store.updateWith strategy context object).Keeps store.Orderly := by
  unfold updateWith
  cases targeted : store.target context object with
  | error error => exact trivial
  | ok target =>
      intro backend orderly
      refine ⟨orderly, ?_⟩
      cases found : backend.items.get? (store.objectKey target) with
      | some document =>
          simp only [Backend.answer, Backend.get, found]
          exact replace_keeps keeps serves (target_fits targeted) fun stored readable =>
            orderly.fits_of_read found readable
      | none =>
          simp only [Backend.answer, Backend.get, found]
          split
          · exact create_keeps keeps context _
          · exact trivial

/-- At each call of a request to the store an orderly backend stays orderly. -/
theorem request_keeps (keeps : store.strategy.KeepsAddress) {visit : Visit Spec Status}
    (serves : store.Serves visit) : (store.request visit).Keeps store.Orderly := by
  cases visit with
  | get context address =>
      refine Request.Keeps.calls ?_
      unfold get
      split
      · exact trivial
      · exact fun backend orderly => ⟨orderly, trivial⟩
  | list scope filter =>
      refine Request.Keeps.calls ?_
      unfold list
      split
      · exact trivial
      · split
        · exact trivial
        · exact fun backend orderly => ⟨orderly, trivial⟩
  | create context object => exact (create_keeps keeps context object).calls
  | update strategy context object => exact (updateWith_keeps keeps serves context object).calls
  | delete context address => exact (delete_keeps context address).calls

/-- Each request keeps a backend orderly. -/
theorem Orderly.visit (keeps : store.strategy.KeepsAddress) (orderly : store.Orderly backend)
    {visit : Visit Spec Status} (serves : store.Serves visit) :
    store.Orderly ((store.request visit).run backend).2 :=
  (request_keeps keeps serves).run orderly

/-- So all reachable backends are orderly. -/
theorem Reachable.orderly (keeps : store.strategy.KeepsAddress)
    (reachable : store.Reachable backend) : store.Orderly backend := by
  induction reachable with
  | empty => exact orderly_empty
  | visit visit serves reachable inductionHypothesis => exact inductionHypothesis.visit keeps serves

end Store

end ResourceApi
