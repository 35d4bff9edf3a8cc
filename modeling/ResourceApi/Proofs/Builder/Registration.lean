/-
This file shows what a registered kind contributes to a server: in each of its versions its own
endpoint and, where it has a status of its own, the endpoint of that.
-/

import ResourceApi.Builder
import ResourceApi.Proofs.Server.StorageMap

namespace ResourceApi

namespace Handler

variable {Spec Status State : Type}

/-- A kind is accepted at any versions of its own group. -/
theorem ofKind_eq_ok_iff {kind : Kind Spec Status} {capabilities : Capabilities Spec Status}
    {groupVersions : List GroupVersion} {handler : Handler State} :
    ofKind kind capabilities groupVersions = .ok handler ↔
      groupVersions ≠ [] ∧ (∀ groupVersion ∈ groupVersions, groupVersion.group = kind.group) ∧
        handler = ⟨groupVersions, contribution kind capabilities groupVersions⟩ := by
  rw [ofKind]
  split
  next missing =>
    have nothing := List.isEmpty_iff.1 missing
    simp [nothing]
  next given =>
    have something : groupVersions ≠ [] := fun nothing => given (List.isEmpty_iff.2 nothing)
    split
    next groupVersion found =>
      have stranger := List.find?_some found
      have inside := List.mem_of_find?_eq_some found
      constructor
      · intro impossible
        cases impossible
      · rintro ⟨_, sameGroup, _⟩
        simp [sameGroup groupVersion inside] at stranger
    next allKnown =>
      have sameGroup : ∀ groupVersion ∈ groupVersions, groupVersion.group = kind.group := by
        simpa using allKnown
      simp only [Except.ok.injEq]
      exact ⟨fun same => ⟨something, sameGroup, same.symm⟩, fun accepted => accepted.2.2.symm⟩

/-- Each version that is listed has the same endpoints. -/
theorem find?_storage (resources : Dict Endpoint) (groupVersions : List GroupVersion)
    (version entry : String) :
    (storage resources groupVersions).find? version entry =
      if version ∈ groupVersions.map GroupVersion.version then resources.get? entry else none := by
  have fold : ∀ map : StorageMap Endpoint,
      (groupVersions.foldl (fun map groupVersion => map.insert groupVersion.version resources)
          map).find? version entry =
        if version ∈ groupVersions.map GroupVersion.version then resources.get? entry
        else map.find? version entry := by
    induction groupVersions with
    | nil => intro map; rfl
    | cons head rest inductionHypothesis =>
        intro map
        rw [List.foldl_cons, inductionHypothesis, StorageMap.find?_insert]
        by_cases here : version = head.version
        · simp [here]
        · simp [here]
  exact fold .empty

theorem statusName_ne (resource : String) : statusName resource ≠ resource := by
  intro same
  have longer := congrArg String.length same
  rw [statusName, String.length_append] at longer
  have suffix : "/status".length = 7 := rfl
  omega

theorem get?_endpoints_eq_some_iff {store : Store Spec Status} {entry : String}
    {endpoint : Endpoint} :
    (endpoints store).get? entry = some endpoint ↔
      (entry = store.resource.resource ∧ endpoint = store.endpoint) ∨
        ∃ status, store.statusEndpoint? = some status ∧
          entry = statusName store.resource.resource ∧
            endpoint = { status with id := ⟨0, 1⟩ } := by
  have main (sought : String) : (Dict.singleton store.resource.resource store.endpoint).get? sought =
      if sought = store.resource.resource then some store.endpoint else none :=
    Dict.get?_insert _ _ _ _
  rw [endpoints]
  cases store.statusEndpoint? with
  | none => simp [main, eq_comm]
  | some status =>
      simp only [Dict.get?_insert, main, Option.some.injEq, exists_eq_left']
      by_cases ofStatus : entry = statusName store.resource.resource
      · simp [ofStatus, statusName_ne, eq_comm (a := endpoint)]
      · simp [ofStatus, eq_comm (a := endpoint)]

end Handler

/-- The number of a contribution is all that changes in its endpoints. -/
theorem ApiGroup.find?_contributedBy (group : ApiGroup) (number : Nat) (version entry : String) :
    (group.contributedBy number).storage.find? version entry =
      (group.storage.find? version entry).map fun endpoint =>
        { endpoint with id.contribution := number } := by
  rw [contributedBy, StorageMap.find?, StorageMap.find?, Dict.get?_map]
  cases group.storage.get? version with
  | none => rfl
  | some resources => exact Dict.get?_map _ resources entry

/-- This is the endpoint without the number of its contribution. -/
def Endpoint.unnumbered (endpoint : Endpoint) : Endpoint :=
  { endpoint with id.contribution := 0 }

/-- This is a kind that was accepted at some group versions. -/
structure Registration (State : Type) : Type 1 where
  Spec : Type
  Status : Type
  kind : Kind Spec Status
  capabilities : Capabilities Spec Status
  groupVersions : List GroupVersion
  handler : Handler State
  accepted : Handler.ofKind kind capabilities groupVersions = .ok handler

namespace Registration

variable {State : Type} (registration : Registration State)

/-- The store of the kind, where a locator has a place for it. -/
def store (locate : Locator) : Except BuildError (Store registration.Spec registration.Status) :=
  Store.new registration.kind registration.kind.groupResource
    (Strategy.ofKind registration.kind registration.capabilities) locate

def Lists (version : String) : Prop :=
  ∃ groupVersion ∈ registration.groupVersions, groupVersion.version = version

/-- A kind is served under its plural, and its status below it. -/
def Names (entry : String) : Prop :=
  entry = registration.kind.plural ∨
    entry = Handler.statusName registration.kind.plural ∧
      registration.capabilities.hasStatus = true

def Contributes (version entry : String) : Prop :=
  registration.Lists version ∧ registration.Names entry

/-- Two registrations have the same entry in the same version. -/
def Clash (first second : Registration State) : Prop :=
  ∃ version entry, first.Contributes version entry ∧ second.Contributes version entry

/-- What the registrations contribute, in their order. -/
def offers (registrations : List (Registration State)) : List (Contribution State) :=
  registrations.map fun registration => registration.handler.contribute

/-- This is the endpoint of the kind under a name. -/
inductive Adapter (locate : Locator) (number : Nat) : String → Endpoint → Prop
  | main {store : Store registration.Spec registration.Status}
      (opened : registration.store locate = .ok store) :
      Adapter locate number registration.kind.plural { store.endpoint with id := ⟨number, 0⟩ }
  | status {store : Store registration.Spec registration.Status}
      {copy : Object registration.Spec registration.Status →
        Object registration.Spec registration.Status →
          Object registration.Spec registration.Status}
      (opened : registration.store locate = .ok store)
      (copies : registration.capabilities.copyStatus = some copy) :
      Adapter locate number (Handler.statusName registration.kind.plural)
        { store.strategyEndpoint (store.strategy.update.ofStatus copy) with id := ⟨number, 1⟩ }

theorem groupVersions_ne_nil : registration.groupVersions ≠ [] :=
  (Handler.ofKind_eq_ok_iff.1 registration.accepted).1

theorem group_eq {groupVersion : GroupVersion}
    (listed : groupVersion ∈ registration.groupVersions) :
    groupVersion.group = registration.kind.group :=
  (Handler.ofKind_eq_ok_iff.1 registration.accepted).2.1 groupVersion listed

theorem handler_eq :
    registration.handler = ⟨registration.groupVersions,
      Handler.contribution registration.kind registration.capabilities
        registration.groupVersions⟩ :=
  (Handler.ofKind_eq_ok_iff.1 registration.accepted).2.2

theorem clash_comm {first second : Registration State} (clash : first.Clash second) :
    second.Clash first := by
  obtain ⟨version, entry, ofFirst, ofSecond⟩ := clash
  exact ⟨version, entry, ofSecond, ofFirst⟩

variable {registration} {locate : Locator}
  {store : Store registration.Spec registration.Status}

/-- An opened store follows the kind and its table. -/
theorem store_eq (opened : registration.store locate = .ok store) :
    store.resource.resource = registration.kind.plural ∧
      store.strategy.capabilities = registration.capabilities := by
  rw [Registration.store, Store.new] at opened
  split at opened
  · cases opened
  · cases opened
    exact ⟨rfl, rfl⟩

/-- What the kind contributes once its store is open. -/
def group (registration : Registration State)
    (store : Store registration.Spec registration.Status) : ApiGroup :=
  ⟨registration.kind.group, registration.groupVersions,
    Handler.storage (Handler.endpoints store) registration.groupVersions⟩

/-- A contribution fails only where the store cannot be opened. -/
theorem contribute_eq_ok_iff {config : CompletedConfig State} {group : ApiGroup} :
    registration.handler.contribute config = .ok group ↔
      ∃ store, registration.store config.locate = .ok store ∧ group = registration.group store := by
  rw [handler_eq]
  simp only [Handler.contribution]
  rw [Registration.store]
  split
  next failed => simp [failed]
  next store opened =>
    rw [opened]
    simp [Registration.group, eq_comm]

theorem home_group (store : Store registration.Spec registration.Status) (number : Nat) :
    ((registration.group store).contributedBy number).home = registration.kind.group := by
  rw [ApiGroup.home]
  split
  next missing => exact absurd missing registration.groupVersions_ne_nil
  next first rest listed =>
    refine registration.group_eq ?_
    have inside : first ∈ ((registration.group store).contributedBy number).versions := by
      simp [listed]
    exact inside

theorem adapter_iff (opened : registration.store locate = .ok store) {number : Nat}
    {entry : String} {endpoint : Endpoint} :
    registration.Adapter locate number entry endpoint ↔
      ∃ made, (Handler.endpoints store).get? entry = some made ∧
        endpoint = { made with id.contribution := number } := by
  obtain ⟨resource, capabilities⟩ := store_eq opened
  constructor
  · intro adapter
    cases adapter with
    | main reopened =>
        cases opened.symm.trans reopened
        exact ⟨_, Handler.get?_endpoints_eq_some_iff.2 (Or.inl ⟨resource.symm, rfl⟩), rfl⟩
    | @status _ copy reopened copies =>
        cases opened.symm.trans reopened
        have status : store.statusEndpoint? =
            some (store.strategyEndpoint (store.strategy.update.ofStatus copy)) := by
          rw [Store.statusEndpoint?, Store.statusStrategy?, capabilities, copies]
          rfl
        exact ⟨_, Handler.get?_endpoints_eq_some_iff.2
          (Or.inr ⟨_, status, by rw [resource], rfl⟩), rfl⟩
  · rintro ⟨made, found, rfl⟩
    rcases Handler.get?_endpoints_eq_some_iff.1 found with ⟨rfl, rfl⟩ | ⟨status, made, rfl, rfl⟩
    · rw [resource]
      exact .main opened
    · rw [Store.statusEndpoint?, Store.statusStrategy?, capabilities, Option.map_map,
        Option.map_eq_some_iff] at made
      obtain ⟨copy, copies, rfl⟩ := made
      rw [resource]
      exact .status opened copies

/-- A kind has an adapter exactly under its own names. -/
theorem exists_adapter_iff (opened : registration.store locate = .ok store) (number : Nat)
    (entry : String) :
    (∃ endpoint, registration.Adapter locate number entry endpoint) ↔ registration.Names entry := by
  constructor
  · rintro ⟨endpoint, adapter⟩
    cases adapter with
    | main => exact Or.inl rfl
    | status _ copies =>
        refine Or.inr ⟨rfl, ?_⟩
        rw [Capabilities.hasStatus, Capabilities.has, copies]
        rfl
  · rintro (rfl | ⟨rfl, hasStatus⟩)
    · exact ⟨_, .main opened⟩
    · obtain ⟨copy, copies⟩ := Option.isSome_iff_exists.1 hasStatus
      exact ⟨_, .status opened copies⟩

/-- The number is all that the place among the registrations changes in an adapter. -/
theorem adapter_unnumbered_iff (number : Nat) {entry : String} {unnumbered : Endpoint} :
    registration.Adapter locate 0 entry unnumbered ↔
      ∃ endpoint, registration.Adapter locate number entry endpoint ∧
        endpoint.unnumbered = unnumbered := by
  constructor
  · intro adapter
    cases adapter with
    | main opened => exact ⟨_, .main opened, rfl⟩
    | status opened copies => exact ⟨_, .status opened copies, rfl⟩
  · rintro ⟨endpoint, adapter, rfl⟩
    cases adapter with
    | main opened => exact .main opened
    | status opened copies => exact .status opened copies

/-- In each of its versions the kind serves its adapters and nothing else. -/
theorem find?_group_eq_some_iff (opened : registration.store locate = .ok store) {number : Nat}
    {version entry : String} {endpoint : Endpoint} :
    ((registration.group store).contributedBy number).storage.find? version entry =
        some endpoint ↔
      registration.Lists version ∧ registration.Adapter locate number entry endpoint := by
  have listed : version ∈ registration.groupVersions.map GroupVersion.version ↔
      registration.Lists version := List.mem_map
  rw [ApiGroup.find?_contributedBy, Registration.group, Handler.find?_storage, adapter_iff opened]
  by_cases lists : registration.Lists version
  · rw [if_pos (listed.2 lists), Option.map_eq_some_iff]
    simp only [lists, true_and, eq_comm (a := endpoint)]
  · simp [listed, lists]

theorem find?_group_eq_none_iff (opened : registration.store locate = .ok store) (number : Nat)
    (version entry : String) :
    ((registration.group store).contributedBy number).storage.find? version entry = none ↔
      ¬ registration.Contributes version entry := by
  rw [Option.eq_none_iff_forall_ne_some, Contributes, ← exists_adapter_iff opened number]
  simp only [ne_eq, find?_group_eq_some_iff opened]
  constructor
  · rintro nothing ⟨lists, endpoint, adapter⟩
    exact nothing endpoint ⟨lists, adapter⟩
  · rintro nothing endpoint ⟨lists, adapter⟩
    exact nothing ⟨lists, endpoint, adapter⟩

end Registration

end ResourceApi
