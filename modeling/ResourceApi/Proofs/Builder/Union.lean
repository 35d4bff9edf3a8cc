/-
This file shows that a server serves the disjoint union of what was registered with its builder,
whatever the order of the registrations.
-/

import ResourceApi.Catalog
import ResourceApi.Proofs.Builder.Admission
import ResourceApi.Proofs.Builder.Preparation

namespace ResourceApi

open Registration (offers)

namespace Builder

variable {State : Type}

/-- The kinds are registered with the builder one after the other. -/
def register (builder : Builder State) (registrations : List (Registration State)) :
    Builder State :=
  registrations.foldl (fun builder registration => builder.withHandler registration.handler) builder

theorem register_eq (builder : Builder State) (registrations : List (Registration State)) :
    builder.register registrations = { builder with
      groupVersions := builder.groupVersions ++ registrations.flatMap Registration.groupVersions
      contributions := builder.contributions ++ offers registrations } := by
  induction registrations generalizing builder with
  | nil => simp [register, offers]
  | cons head rest inductionHypothesis =>
      have first : builder.register (head :: rest) =
          (builder.withHandler head.handler).register rest := rfl
      have listed : head.handler.groupVersions = head.groupVersions :=
        congrArg Handler.groupVersions head.handler_eq
      rw [first, inductionHypothesis]
      simp [withHandler, withContribution, withGroupVersions, offers, listed]

/-- This is the configuration that the contributions are made with. -/
def completed (builder : Builder State) (options : Options) (registry : Registry) (state : State) :
    CompletedConfig State :=
  (builder.settledConfig options registry
    (applyChanges builder.changes { component := options.componentName } state).1).complete

/-- A builder builds a server where it is prepared and all kinds can join. -/
theorem build_eq_ok_iff {builder : Builder State} {registrations : List (Registration State)}
    (only : builder.contributions = offers registrations) {state : State}
    {server : Server State} :
    (builder.build state).1 = .ok server ↔
      ∃ group options registry groups, builder.Prepared group options registry ∧
        joinContributions (builder.completed options registry state) 0 (offers registrations)
          .empty = .ok groups ∧
        server = builder.served options registry
          (applyChanges builder.changes { component := options.componentName } state).1 groups := by
  have wellNamed (config : CompletedConfig State) (groups : Dict ApiGroup)
      (joined : joinContributions config 0 builder.contributions .empty = .ok groups) :
      WellNamed groups.entries := by
    rw [only] at joined
    exact wellNamed_of_joinContributions (by simp [WellNamed, Dict.empty]) joined
  constructor
  · intro built
    rw [build] at built
    split at built
    · cases built
    next options registry prepared =>
      obtain ⟨group, prepared⟩ := prepare_eq_ok_iff.1 prepared
      obtain ⟨groups, joined, served⟩ := (assemble_eq_ok_iff (wellNamed _)).1 built
      rw [only] at joined
      exact ⟨group, options, registry, groups, prepared, joined, served⟩
  · rintro ⟨group, options, registry, groups, prepared, joined, rfl⟩
    rw [← only] at joined
    rw [build, prepare_eq_ok_iff.2 ⟨group, prepared⟩]
    exact (assemble_eq_ok_iff (wellNamed _)).2 ⟨groups, joined, rfl⟩

/-- The builder makes this server of the registrations. -/
def Builds (builder : Builder State) (registrations : List (Registration State)) (state : State)
    (server : Server State) : Prop :=
  ((builder.register registrations).build state).1 = .ok server

section Orders

variable {builder : Builder State} {first second registrations : List (Registration State)}
  {group : String} {options : Options} {registry : Registry} {state : State}

theorem oneGroup_of_prepared
    (prepared : (builder.register registrations).Prepared group options registry) :
    ∀ registration ∈ registrations, registration.kind.group = group := by
  intro registration inside
  obtain ⟨groupVersion, listed⟩ := List.exists_mem_of_ne_nil _ registration.groupVersions_ne_nil
  have known : groupVersion ∈ (builder.register registrations).groupVersions := by
    rw [register_eq]
    exact List.mem_append_right _ (List.mem_flatMap.2 ⟨registration, inside, listed⟩)
  rw [← registration.group_eq listed, prepared.oneGroup groupVersion known]

/-- The order of the registrations matters neither to the checks nor to the configuration. -/
theorem prepared_of_perm (reordered : first.Perm second)
    (prepared : (builder.register first).Prepared group options registry) :
    ∃ others, (builder.register second).Prepared group others registry ∧
      ∀ state, (builder.register second).completed others registry state =
        (builder.register first).completed options registry state := by
  have same : ∀ groupVersion,
      groupVersion ∈ (builder.register second).groupVersions ↔
        groupVersion ∈ (builder.register first).groupVersions := by
    intro groupVersion
    simp only [register_eq, List.mem_append, List.mem_flatMap, reordered.mem_iff]
  obtain ⟨encodeVersions, reprepared⟩ :=
    prepared.reorder (builder.register second).contributions same
  refine ⟨{ options with storage.encodeVersions := encodeVersions }, ?_, ?_⟩
  · rw [register_eq builder second] at reprepared ⊢
    rw [register_eq builder first] at reprepared
    exact reprepared
  · intro state
    rw [register_eq, register_eq]
    rfl

variable (alone : builder.contributions = [])

include alone

theorem builds_iff {server : Server State} :
    builder.Builds registrations state server ↔
      ∃ group options registry groups,
        (builder.register registrations).Prepared group options registry ∧
          joinContributions ((builder.register registrations).completed options registry state) 0
            (offers registrations) .empty = .ok groups ∧
          server = (builder.register registrations).served options registry
            (applyChanges (builder.register registrations).changes
              { component := options.componentName } state).1 groups :=
  build_eq_ok_iff (by rw [register_eq, alone, List.nil_append])

/-- A prepared builder builds a server exactly where the registrations are disjoint. -/
theorem exists_builds_iff
    (prepared : (builder.register registrations).prepare = .ok (options, registry)) :
    (∃ server, builder.Builds registrations state server) ↔
      (registrations.Pairwise fun first second => ¬ first.Clash second) ∧
        ∀ registration ∈ registrations, ∃ store, registration.store
          ((builder.register registrations).completed options registry state).locate = .ok store := by
  constructor
  · rintro ⟨server, built⟩
    obtain ⟨group, _, _, groups, known, joined, _⟩ := (builds_iff alone).1 built
    cases (prepare_eq_ok_iff.2 ⟨group, known⟩).symm.trans prepared
    have joinable :=
      (joinContributions_iff known.named (oneGroup_of_prepared known) 0).1 ⟨groups, joined⟩
    exact ⟨joinable.disjoint, joinable.opened⟩
  · rintro ⟨disjoint, opened⟩
    obtain ⟨group, known⟩ := prepare_eq_ok_iff.1 prepared
    have free : ∀ registration ∈ registrations, ∀ version entry,
        registration.Contributes version entry →
          endpointIn .empty group version entry = none :=
      fun _ _ _ _ _ => rfl
    obtain ⟨groups, joined⟩ :=
      (joinContributions_iff known.named (oneGroup_of_prepared known) 0).2 ⟨opened, disjoint, free⟩
    exact ⟨_, (builds_iff alone).2 ⟨group, options, registry, groups, known, joined, rfl⟩⟩

theorem exists_builds_of_perm (reordered : first.Perm second)
    (succeeds : ∃ server, builder.Builds first state server) :
    ∃ server, builder.Builds second state server := by
  obtain ⟨server, built⟩ := succeeds
  obtain ⟨group, options, registry, groups, known, _, _⟩ := (builds_iff alone).1 built
  obtain ⟨others, reknown, sameConfig⟩ := prepared_of_perm reordered known
  have prepared := prepare_eq_ok_iff.2 ⟨group, known⟩
  have reprepared := prepare_eq_ok_iff.2 ⟨group, reknown⟩
  obtain ⟨disjoint, opened⟩ := (exists_builds_iff alone prepared).1 ⟨server, built⟩
  refine (exists_builds_iff alone reprepared).2 ⟨?_, ?_⟩
  · exact disjoint.perm reordered fun apart clash => apart (Registration.clash_comm clash)
  · intro registration inside
    rw [sameConfig]
    exact opened registration (reordered.mem_iff.2 inside)

/-- The servers of two orders have the same configuration. -/
theorem config_eq_of_perm (reordered : first.Perm second) {server other : Server State}
    (built : builder.Builds first state server) (rebuilt : builder.Builds second state other) :
    server.config = other.config := by
  obtain ⟨group, options, registry, _, known, _, rfl⟩ := (builds_iff alone).1 built
  obtain ⟨_, _, _, _, otherKnown, _, rfl⟩ := (builds_iff alone).1 rebuilt
  obtain ⟨others, reknown, sameConfig⟩ := prepared_of_perm reordered known
  cases (prepare_eq_ok_iff.2 ⟨group, reknown⟩).symm.trans (prepare_eq_ok_iff.2 ⟨_, otherKnown⟩)
  exact (sameConfig state).symm

end Orders

end Builder

/-- The server serves what the registrations contribute, and nothing else. -/
structure Server.ServesUnion {State : Type} (server : Server State)
    (registrations : List (Registration State)) : Prop where
  disjoint : registrations.Pairwise fun first second => ¬ first.Clash second
  present : ∀ group version entry,
    (∃ endpoint, server.endpoint? group version entry = some endpoint) ↔
      ∃ registration ∈ registrations,
        registration.kind.group = group ∧ registration.Contributes version entry
  adapter : ∀ group version entry endpoint,
    server.endpoint? group version entry = some endpoint ↔
      ∃ (place : Nat) (registration : Registration State),
        registrations[place]? = some registration ∧ registration.kind.group = group ∧
          registration.Lists version ∧
            registration.Adapter server.config.locate place entry endpoint

/-- Up to the numbers of the contributions, what is served depends on the set of registrations. -/
theorem Server.ServesUnion.unnumbered_eq_some_iff {State : Type} {server : Server State}
    {registrations : List (Registration State)} (serves : server.ServesUnion registrations)
    {group version entry : String} {endpoint : Endpoint} :
    (server.endpoint? group version entry).map Endpoint.unnumbered = some endpoint ↔
      ∃ registration ∈ registrations, registration.kind.group = group ∧
        registration.Lists version ∧
          registration.Adapter server.config.locate 0 entry endpoint := by
  rw [Option.map_eq_some_iff]
  constructor
  · rintro ⟨numbered, found, same⟩
    obtain ⟨place, registration, here, inGroup, lists, adapter⟩ :=
      (serves.adapter group version entry numbered).1 found
    exact ⟨registration, List.mem_of_getElem? here, inGroup, lists,
      (Registration.adapter_unnumbered_iff place).2 ⟨numbered, adapter, same⟩⟩
  · rintro ⟨registration, inside, inGroup, lists, adapter⟩
    obtain ⟨place, here⟩ := List.getElem?_of_mem inside
    obtain ⟨numbered, adapter, same⟩ := (Registration.adapter_unnumbered_iff place).1 adapter
    exact ⟨numbered, (serves.adapter group version entry numbered).2
      ⟨place, registration, here, inGroup, lists, adapter⟩, same⟩

namespace Builder

variable {State : Type} {builder : Builder State}

theorem servesUnion_of_builds (alone : builder.contributions = [])
    {registrations : List (Registration State)} {state : State} {server : Server State}
    (built : builder.Builds registrations state server) : server.ServesUnion registrations := by
  obtain ⟨group, options, registry, groups, prepared, joined, rfl⟩ := (builds_iff alone).1 built
  have joinable := (joinContributions_iff prepared.named (oneGroup_of_prepared prepared) 0).1
    ⟨groups, joined⟩
  have adapter := endpointIn_of_joinContributions joined
  simp only [Nat.zero_add] at adapter
  have nothing (name version entry : String) (endpoint : Endpoint) :
      ¬ endpointIn .empty name version entry = some endpoint := by
    simp [endpointIn]
  simp only [nothing, false_or] at adapter
  refine ⟨joinable.disjoint, ?_, adapter⟩
  intro name version entry
  constructor
  · rintro ⟨endpoint, found⟩
    obtain ⟨place, registration, here, inGroup, lists, adapts⟩ :=
      (adapter name version entry endpoint).1 found
    have inside := List.mem_of_getElem? here
    obtain ⟨store, opened⟩ := joinable.opened registration inside
    exact ⟨registration, inside, inGroup, lists,
      (Registration.exists_adapter_iff opened place entry).1 ⟨endpoint, adapts⟩⟩
  · rintro ⟨registration, inside, inGroup, lists, names⟩
    obtain ⟨place, here⟩ := List.getElem?_of_mem inside
    obtain ⟨store, opened⟩ := joinable.opened registration inside
    obtain ⟨endpoint, adapts⟩ := (Registration.exists_adapter_iff opened place entry).2 names
    exact ⟨endpoint, (adapter name version entry endpoint).2
      ⟨place, registration, here, inGroup, lists, adapts⟩⟩

/-- Registrations build a server of their disjoint union in every order or in none. -/
theorem build_serves_disjoint_union (alone : builder.contributions = [])
    {first second : List (Registration State)} (reordered : first.Perm second) (state : State) :
    ((∃ server, builder.Builds first state server) ↔
        ∃ server, builder.Builds second state server) ∧
      (∀ options registry, (builder.register first).prepare = .ok (options, registry) →
        ((∃ server, builder.Builds first state server) ↔
          (first.Pairwise fun one other => ¬ one.Clash other) ∧
            ∀ registration ∈ first, ∃ store, registration.store
              ((builder.register first).completed options registry state).locate = .ok store)) ∧
      (∀ server, builder.Builds first state server → server.ServesUnion first) ∧
      ∀ server other, builder.Builds first state server → builder.Builds second state other →
        ∀ group version entry,
          (server.endpoint? group version entry).map Endpoint.unnumbered =
            (other.endpoint? group version entry).map Endpoint.unnumbered := by
  refine ⟨⟨exists_builds_of_perm alone reordered, exists_builds_of_perm alone reordered.symm⟩,
    fun options registry prepared => exists_builds_iff alone prepared,
    fun server built => servesUnion_of_builds alone built, ?_⟩
  intro server other built rebuilt group version entry
  have serves := servesUnion_of_builds alone built
  have otherServes := servesUnion_of_builds alone rebuilt
  refine Option.ext fun endpoint => ?_
  rw [serves.unnumbered_eq_some_iff, otherServes.unnumbered_eq_some_iff,
    config_eq_of_perm alone reordered built rebuilt]
  simp only [reordered.mem_iff]

def barRegistration : Registration Unit where
  Spec := Catalog.MessageSpec
  Status := Catalog.NoStatus
  kind := Catalog.bar
  capabilities := .none
  groupVersions := [Catalog.bar.groupVersion]
  handler := ⟨_, _⟩
  accepted := rfl

def gadgetRegistration : Registration Unit where
  Spec := Catalog.GadgetSpec
  Status := Catalog.GadgetStatus
  kind := Catalog.gadget
  capabilities := Catalog.gadgetCapabilities
  groupVersions := [⟨Catalog.sampleGroup, "v1beta1"⟩, Catalog.gadget.groupVersion]
  handler := ⟨_, _⟩
  accepted := rfl

def sampleBuilder : Builder Unit := { component := "sample" }

/-- Bars and gadgets can be served together, whichever of them is registered first. -/
theorem bars_and_gadgets_in_either_order :
    ∃ server other,
      sampleBuilder.Builds [barRegistration, gadgetRegistration] () server ∧
        sampleBuilder.Builds [gadgetRegistration, barRegistration] () other ∧
          server.ServesUnion [barRegistration, gadgetRegistration] ∧
            ∀ group version entry,
              (server.endpoint? group version entry).map Endpoint.unnumbered =
                (other.endpoint? group version entry).map Endpoint.unnumbered := by
  have reordered : [barRegistration, gadgetRegistration].Perm
      [gadgetRegistration, barRegistration] := List.Perm.swap _ _ _
  have succeeds :
      ((sampleBuilder.register [barRegistration, gadgetRegistration]).build ()).1.isOk = true := by
    decide +kernel
  obtain ⟨sameOutcome, _, serves, sameEndpoints⟩ :=
    @build_serves_disjoint_union Unit sampleBuilder rfl _ _ reordered ()
  cases built : ((sampleBuilder.register [barRegistration, gadgetRegistration]).build ()).1 with
  | error error =>
      rw [built] at succeeds
      cases succeeds
  | ok server =>
      obtain ⟨other, rebuilt⟩ := sameOutcome.1 ⟨server, built⟩
      exact ⟨server, other, built, rebuilt, serves server built,
        sameEndpoints server other built rebuilt⟩

end Builder

end ResourceApi
