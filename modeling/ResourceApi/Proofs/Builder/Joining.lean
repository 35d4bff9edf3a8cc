/-
This file shows how contributions become the groups of a server. One contribution joins at a time,
and what it brings is served beside what was served before.
-/

import ResourceApi.Builder
import ResourceApi.Proofs.Server.StorageMap

namespace ResourceApi

/-- This is what a server answers that has these groups. -/
def endpointIn (groups : Dict ApiGroup) (name version entry : String) : Option Endpoint :=
  (groups.get? name).bind fun group => group.storage.find? version entry

/-- Every group stands under its own name, and that is not empty. -/
def WellNamed (groups : List (String × ApiGroup)) : Prop :=
  ∀ entry ∈ groups, entry.1 ≠ "" ∧ entry.2.name = entry.1

theorem wellNamed_iff {groups : Dict ApiGroup} :
    WellNamed groups.entries ↔
      ∀ name group, groups.get? name = some group → name ≠ "" ∧ group.name = name := by
  constructor
  · intro wellNamed name group found
    exact wellNamed (name, group) (Dict.get?_eq_some_iff.1 found)
  · rintro wellNamed ⟨name, group⟩ inside
    exact wellNamed name group (Dict.get?_eq_some_iff.2 inside)

namespace Builder

variable {State : Type}

/-- The groups after one more contribution has joined them. -/
def joinGroup (groups : Dict ApiGroup) (group : ApiGroup) : Except BuildError (Dict ApiGroup) :=
  if group.home = "" then .error .emptyGroupName
  else
    match groups.get? group.home with
    | none => .ok (groups.insert group.home group)
    | some previous =>
        match previous.join group with
        | .error error => .error error
        | .ok joined => .ok (groups.insert group.home joined)

theorem joinContributions_cons_eq_ok_iff {config : CompletedConfig State} {number : Nat}
    {contribution : Contribution State} {rest : List (Contribution State)}
    {groups result : Dict ApiGroup} :
    joinContributions config number (contribution :: rest) groups = .ok result ↔
      ∃ group joined, contribution config = .ok group ∧
        joinGroup groups (group.contributedBy number) = .ok joined ∧
          joinContributions config (number + 1) rest joined = .ok result := by
  rw [joinContributions]
  cases contribution config with
  | error error => simp
  | ok group =>
      simp only [joinGroup]
      by_cases unnamed : (group.contributedBy number).home = ""
      · simp [unnamed]
      · cases present : groups.get? (group.contributedBy number).home with
        | none => simp [unnamed, present]
        | some previous =>
            cases join : previous.join (group.contributedBy number) with
            | error error => simp [unnamed, present, join]
            | ok joined => simp [unnamed, present, join]

variable {groups joined : Dict ApiGroup} {group : ApiGroup}

/-- A contribution stands alone under its name, or it is merged with what stands there. -/
theorem joinGroup_cases (done : joinGroup groups group = .ok joined) :
    group.home ≠ "" ∧ ∃ placed, joined = groups.insert group.home placed ∧
      ((groups.get? group.home = none ∧ placed = group) ∨
        ∃ previous storage, groups.get? group.home = some previous ∧
          previous.storage.merge group.storage = .ok storage ∧
            placed = { previous with storage }.addVersions group.versions) := by
  rw [joinGroup] at done
  split at done
  · cases done
  next named =>
    split at done
    next absent =>
      cases done
      exact ⟨named, group, rfl, Or.inl ⟨absent, rfl⟩⟩
    next previous present =>
      rw [ApiGroup.join] at done
      split at done
      · cases done
      next placed merge =>
        split at merge
        · cases merge
        next storage merged =>
          cases merge
          cases done
          exact ⟨named, _, rfl, Or.inr ⟨previous, storage, present, merged, rfl⟩⟩

/-- A group that joins serves what it brings, which was not served before. -/
theorem endpointIn_of_joinGroup (done : joinGroup groups group = .ok joined) :
    (∀ version entry, endpointIn groups group.home version entry = none ∨
        group.storage.find? version entry = none) ∧
      ∀ name version entry, endpointIn joined name version entry =
        (endpointIn groups name version entry).or
          (if name = group.home then group.storage.find? version entry else none) := by
  obtain ⟨_, placed, rfl, ⟨absent, rfl⟩ | ⟨previous, storage, present, merged, rfl⟩⟩ :=
    joinGroup_cases done
  · refine ⟨fun version entry => Or.inl (by simp [endpointIn, absent]), ?_⟩
    intro name version entry
    by_cases here : name = placed.home
    · simp [endpointIn, here, absent]
    · simp [endpointIn, here]
  · obtain ⟨disjoint, union⟩ := StorageMap.find?_of_merge merged
    refine ⟨fun version entry => by simpa [endpointIn, present] using disjoint version entry, ?_⟩
    intro name version entry
    by_cases here : name = group.home
    · simp [endpointIn, here, present, ApiGroup.addVersions, union]
    · simp [endpointIn, here]

/-- A group joins where it has a name and brings nothing that is served already. -/
theorem joinGroup_of_free (named : group.home ≠ "")
    (free : ∀ version entry, endpointIn groups group.home version entry = none ∨
      group.storage.find? version entry = none) :
    ∃ joined, joinGroup groups group = .ok joined := by
  rw [joinGroup, if_neg named]
  cases present : groups.get? group.home with
  | none => exact ⟨_, rfl⟩
  | some previous =>
      have disjoint : previous.storage.Disjoint group.storage := by
        intro version entry
        simpa [endpointIn, present] using free version entry
      obtain ⟨storage, merged⟩ := StorageMap.merge_of_disjoint disjoint
      simp only [ApiGroup.join, merged]
      exact ⟨_, rfl⟩

theorem wellNamed_of_joinGroup (wellNamed : WellNamed groups.entries)
    (own : group.name = group.home) (done : joinGroup groups group = .ok joined) :
    WellNamed joined.entries := by
  rw [wellNamed_iff] at wellNamed ⊢
  obtain ⟨named, placed, rfl, place⟩ := joinGroup_cases done
  have placedName : placed.name = group.home := by
    rcases place with ⟨_, rfl⟩ | ⟨previous, storage, present, _, rfl⟩
    · exact own
    · exact (wellNamed group.home previous present).2
  intro name found stands
  rw [Dict.get?_insert] at stands
  split at stands
  next here =>
    cases stands
    exact ⟨here ▸ named, placedName.trans here.symm⟩
  · exact wellNamed name found stands

/-- Groups that stand under their own names are installed under these names. -/
theorem installAll_eq {entries : List (String × ApiGroup)}
    (increasing : Entries.Increasing entries) (wellNamed : WellNamed entries)
    {server : Server State} (free : ∀ entry ∈ entries, server.groups.get? entry.1 = none) :
    installAll (entries.map Prod.snd) server =
      .ok { server with groups := server.groups.insertAll entries } := by
  induction entries generalizing server with
  | nil => rfl
  | cons head rest inductionHypothesis =>
      obtain ⟨above, tail⟩ := List.pairwise_cons.1 increasing
      obtain ⟨named, own⟩ := wellNamed head List.mem_cons_self
      have absent := Dict.contains_eq_false_iff.2 (free head List.mem_cons_self)
      have installed : server.install head.2 =
          .ok { server with groups := server.groups.insert head.1 head.2 } := by
        rw [Server.install, own, if_neg named, absent, if_neg Bool.false_ne_true]
      have later : ∀ entry ∈ rest,
          (server.groups.insert head.1 head.2).get? entry.1 = none := by
        intro entry inside
        have different : entry.1 ≠ head.1 := by
          intro same
          have less := above entry inside
          rw [same] at less
          exact String.lt_irrefl _ less
        rw [Dict.get?_insert, if_neg different]
        exact free entry (List.mem_cons_of_mem _ inside)
      have wellNamedRest : WellNamed rest := fun entry inside =>
        wellNamed entry (List.mem_cons_of_mem _ inside)
      rw [List.map_cons, installAll, installed]
      exact inductionHypothesis tail wellNamedRest later

/-- A server without groups gets exactly the groups that are installed in it. -/
theorem installAll_values {groups : Dict ApiGroup} (wellNamed : WellNamed groups.entries)
    {server : Server State} (fresh : server.groups = .empty) :
    installAll groups.values server = .ok { server with groups } := by
  have installed := @installAll_eq _ _ groups.increasing wellNamed server
    fun entry _ => by rw [fresh, Dict.get?_empty]
  have whole : server.groups.insertAll groups.entries = groups := by
    rw [fresh]
    exact Dict.ofList_entries groups
  rw [whole] at installed
  exact installed

theorem installAll_registry {groups : List ApiGroup} {server result : Server State}
    (done : installAll groups server = .ok result) : result.registry = server.registry := by
  induction groups generalizing server with
  | nil =>
      cases done
      rfl
  | cons group rest inductionHypothesis =>
      rw [installAll] at done
      split at done
      · cases done
      next next installed =>
        have kept : next.registry = server.registry := by
          unfold Server.install at installed
          split at installed
          · cases installed
          · split at installed
            · cases installed
            · cases installed
              rfl
        exact (inductionHypothesis done).trans kept

theorem assemble_registry {builder : Builder State} {options : Options} {registry : Registry}
    {config : Config State} {server : Server State}
    (done : builder.assemble options registry config = .ok server) :
    server.registry = registry := by
  simp only [assemble] at done
  split at done
  · cases done
  · split at done
    · cases done
    next installed =>
      unfold Server.addHook at done
      split at done
      · cases done
      · cases done
        exact installAll_registry installed

/-- The server that is assembled from groups which stand under their own names. -/
def served (builder : Builder State) (options : Options) (registry : Registry)
    (config : Config State) (groups : Dict ApiGroup) : Server State :=
  let settled := builder.settledConfig options registry config
  { name := options.componentName ++ "-apiserver", config := settled.complete, groups, registry
    hooks := [builder.informerHook options.componentName settled.informer] }

/-- Nothing but the contributions can keep the server from being assembled. -/
theorem assemble_eq_ok_iff {builder : Builder State} {options : Options} {registry : Registry}
    {config : Config State} {server : Server State}
    (wellNamed : ∀ groups, joinContributions (builder.settledConfig options registry config).complete
      0 builder.contributions .empty = .ok groups → WellNamed groups.entries) :
    builder.assemble options registry config = .ok server ↔
      ∃ groups, joinContributions (builder.settledConfig options registry config).complete
          0 builder.contributions .empty = .ok groups ∧
        server = builder.served options registry config groups := by
  cases joined : joinContributions (builder.settledConfig options registry config).complete
      0 builder.contributions .empty with
  | error error => simp [assemble, Server.new, joined]
  | ok groups =>
      have assembled : builder.assemble options registry config =
          .ok (builder.served options registry config groups) := by
        simp only [assemble, Server.new, joined, installAll_values (wellNamed groups joined)]
        rfl
      simp [assembled, eq_comm]

end Builder

end ResourceApi
