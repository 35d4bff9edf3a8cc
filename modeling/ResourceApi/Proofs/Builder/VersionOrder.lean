/-
This file says which versions an installed group lists, and in which order. What the first
registration lists is taken over as it is, and every later one adds the versions that are new.
-/

import ResourceApi.Proofs.Builder.Union
import ResourceApi.Proofs.Server.Merge

namespace ResourceApi

open Registration (offers)

namespace ApiGroup

/-- Versions that are new come behind those that are known, each once and in their order. -/
theorem foldl_addNew (known versions : List GroupVersion) :
    versions.foldl addNew known = known ++ (versions.removeAll known).eraseDups := by
  induction versions generalizing known with
  | nil => simp [List.removeAll]
  | cons head rest inductionHypothesis =>
      rw [List.foldl_cons, inductionHypothesis, addNew]
      split
      next old => simp_all [List.removeAll]
      next new =>
        have others : rest.removeAll (known ++ [head]) =
            (rest.removeAll known).filter fun version => !version == head := by
          rw [List.removeAll, List.removeAll, List.filter_filter]
          refine List.filter_congr fun version _ => ?_
          rw [Bool.eq_iff_iff]
          simp [and_comm]
        have kept : (head :: rest).removeAll known = head :: rest.removeAll known := by
          simp_all [List.removeAll]
        rw [others, kept, List.eraseDups_cons, List.append_assoc]
        rfl

theorem foldl_addNew_nil (versions : List GroupVersion) :
    versions.foldl addNew [] = versions.eraseDups := by
  have all : versions.removeAll [] = versions := List.filter_eq_self.2 fun _ _ => rfl
  rw [foldl_addNew, all, List.nil_append]

theorem nodup_addNew {known : List GroupVersion} {version : GroupVersion} :
    (addNew known version).Nodup ↔ known.Nodup := by
  rw [addNew]
  split
  · exact Iff.rfl
  next new =>
    have absent : version ∉ known := by simpa using new
    rw [List.nodup_append]
    refine ⟨And.left, fun different => ⟨different, by simp, ?_⟩⟩
    rintro other old _ inside rfl
    exact absent (List.mem_singleton.1 inside ▸ old)

theorem nodup_foldl_addNew {known versions : List GroupVersion} :
    (versions.foldl addNew known).Nodup ↔ known.Nodup := by
  induction versions generalizing known with
  | nil => exact Iff.rfl
  | cons head rest inductionHypothesis => rw [List.foldl_cons, inductionHypothesis, nodup_addNew]

theorem foldl_addNew_of_nodup {known versions : List GroupVersion}
    (different : (known ++ versions).Nodup) : versions.foldl addNew known = known ++ versions := by
  induction versions generalizing known with
  | nil => simp
  | cons head rest inductionHypothesis =>
      have new : head ∉ known := fun old =>
        (List.nodup_append.1 different).2.2 head old head List.mem_cons_self rfl
      have whole : known ++ head :: rest = known ++ [head] ++ rest := by simp
      have added : addNew known head = known ++ [head] := by simp [addNew, new]
      rw [whole] at different ⊢
      rw [List.foldl_cons, added, inductionHypothesis different]

/-- What is new to both lists is found in one go. -/
theorem foldl_addNew_foldl (known middle versions : List GroupVersion) :
    (versions.foldl addNew middle).foldl addNew known =
      versions.foldl addNew (middle.foldl addNew known) := by
  induction versions generalizing middle with
  | nil => rfl
  | cons head rest inductionHypothesis =>
      have step : (addNew middle head).foldl addNew known =
          addNew (middle.foldl addNew known) head := by
        by_cases old : head ∈ middle
        · have stays : head ∈ middle.foldl addNew known := mem_foldl_addNew.2 (Or.inr old)
          simp [addNew, old, stays]
        · have added : addNew middle head = middle ++ [head] := by simp [addNew, old]
          rw [added, List.foldl_append]
          rfl
      rw [List.foldl_cons, inductionHypothesis, step, List.foldl_cons]

/-- The group has storage for each version that it lists, and for no other. -/
def InStep (group : ApiGroup) : Prop :=
  ∀ version, version ∈ group.storage.keys ↔
    ∃ groupVersion ∈ group.versions, groupVersion.version = version

/-- Two groups that are in step are so together. -/
theorem InStep.merge {first second : ApiGroup} (firstInStep : first.InStep)
    (secondInStep : second.InStep) {storage : StorageMap Endpoint}
    (merged : first.storage.merge second.storage = .ok storage) :
    ({ first with storage }.addVersions second.versions).InStep := by
  intro version
  have known := (StorageMap.union_of_merge merged).versions version
  have inFirst := firstInStep version
  have inSecond := secondInStep version
  rw [Dict.mem_keys_iff] at inFirst inSecond ⊢
  simp only [addVersions, known, Bool.or_eq_true, inFirst, inSecond, mem_foldl_addNew, or_and_right,
    exists_or]

end ApiGroup

theorem Handler.contains_storage (resources : Dict Endpoint) (groupVersions : List GroupVersion)
    (version : String) :
    (storage resources groupVersions).contains version = true ↔
      ∃ groupVersion ∈ groupVersions, groupVersion.version = version := by
  have fold : ∀ map : StorageMap Endpoint,
      (groupVersions.foldl (fun map groupVersion => map.insert groupVersion.version resources)
          map).contains version = true ↔
        map.contains version = true ∨
          ∃ groupVersion ∈ groupVersions, groupVersion.version = version := by
    induction groupVersions with
    | nil => simp
    | cons head rest inductionHypothesis =>
        intro map
        rw [List.foldl_cons, inductionHypothesis]
        simp only [Dict.contains, Dict.get?_insert]
        by_cases here : version = head.version
        · simp [here]
        · simp [here, Ne.symm here]
  rw [storage, fold]
  simp [Dict.contains]

theorem Registration.inStep_group {State : Type} (registration : Registration State)
    (store : Store registration.Spec registration.Status) (number : Nat) :
    ((registration.group store).contributedBy number).InStep := by
  intro version
  rw [Dict.mem_keys_iff]
  have same : ((registration.group store).contributedBy number).storage.contains version =
      (registration.group store).storage.contains version := by
    simp [ApiGroup.contributedBy, Dict.contains]
  rw [same]
  exact Handler.contains_storage _ _ version

namespace Builder

variable {State : Type} {config : CompletedConfig State} {groups joined result : Dict ApiGroup}
  {name : String} {versions : List GroupVersion}

/-- There is one group, which lists these versions and is in step with them. -/
def ListsAlone (groups : Dict ApiGroup) (name : String) (versions : List GroupVersion) : Prop :=
  ∃ info : ApiGroup, groups = .singleton name info ∧ info.name = name ∧ info.versions = versions ∧
    info.InStep

section Joins

variable {registration : Registration State}
  {store : Store registration.Spec registration.Status} {number : Nat}

theorem listsAlone_of_joinGroup
    (joins : joinGroup .empty ((registration.group store).contributedBy number) = .ok joined) :
    ListsAlone joined registration.kind.group registration.groupVersions := by
  obtain ⟨_, placed, rfl, ⟨_, rfl⟩ | ⟨previous, _, present, _⟩⟩ := joinGroup_cases joins
  · refine ⟨_, ?_, rfl, rfl, registration.inStep_group store number⟩
    rw [Registration.home_group]
    rfl
  · cases present

/-- A later registration adds what is new. -/
theorem ListsAlone.join (alone : ListsAlone groups name versions)
    (inGroup : registration.kind.group = name)
    (joins : joinGroup groups ((registration.group store).contributedBy number) = .ok joined) :
    ListsAlone joined name (registration.groupVersions.foldl ApiGroup.addNew versions) := by
  obtain ⟨info, rfl, named, rfl, inStep⟩ := alone
  have stands : (Dict.singleton name info).get? name = some info := by simp [Dict.singleton]
  obtain ⟨_, placed, rfl, place⟩ := joinGroup_cases joins
  rw [Registration.home_group, inGroup] at place ⊢
  rw [stands] at place
  rcases place with ⟨absent, _⟩ | ⟨previous, storage, present, merged, rfl⟩
  · cases absent
  · cases present
    refine ⟨{ info with storage }.addVersions registration.groupVersions, ?_, named, rfl,
      inStep.merge (registration.inStep_group store number) merged⟩
    refine Dict.eq_of_get? fun key => ?_
    simp only [Dict.singleton, Dict.get?_insert]
    split <;> rfl

end Joins

/-- So all later registrations add what is new, one after the other. -/
theorem ListsAlone.joinContributions (alone : ListsAlone groups name versions)
    {registrations : List (Registration State)}
    (oneGroup : ∀ registration ∈ registrations, registration.kind.group = name) {number : Nat}
    (done : Builder.joinContributions config number (offers registrations) groups = .ok result) :
    ListsAlone result name
      ((registrations.flatMap Registration.groupVersions).foldl ApiGroup.addNew versions) := by
  induction registrations generalizing number groups versions with
  | nil =>
      cases done
      exact alone
  | cons head rest inductionHypothesis =>
      obtain ⟨group, joined, contributed, joins, tail⟩ := joinContributions_cons_eq_ok_iff.1 done
      obtain ⟨store, opened, rfl⟩ := Registration.contribute_eq_ok_iff.1 contributed
      rw [List.flatMap_cons, List.foldl_append]
      exact inductionHypothesis (alone.join (oneGroup head List.mem_cons_self) joins)
        (fun registration inside => oneGroup registration (List.mem_cons_of_mem _ inside)) tail

section Installed

variable {builder : Builder State} {registrations : List (Registration State)} {state : State}
  {server : Server State} (alone : builder.contributions = [])
  (unversioned : builder.groupVersions = [])

include unversioned in
theorem orderedGroupVersions_register (registrations : List (Registration State)) :
    (builder.register registrations).orderedGroupVersions =
      (registrations.flatMap Registration.groupVersions).foldl ApiGroup.addNew [] := by
  rw [orderedGroupVersions, register_eq]
  simp only [unversioned, List.nil_append]

include alone unversioned

theorem listsAlone_of_builds (built : builder.Builds registrations state server) :
    ∃ first rest, registrations = first :: rest ∧
      ListsAlone server.groups first.kind.group
        ((rest.flatMap Registration.groupVersions).foldl ApiGroup.addNew first.groupVersions) := by
  obtain ⟨group, options, registry, groups, prepared, joined, rfl⟩ := (builds_iff alone).1 built
  cases registrations with
  | nil => exact absurd unversioned prepared.registered
  | cons first rest =>
      have oneGroup := oneGroup_of_prepared prepared
      obtain rfl := oneGroup first List.mem_cons_self
      obtain ⟨_, joinedFirst, contributed, joins, tail⟩ :=
        joinContributions_cons_eq_ok_iff.1 joined
      obtain ⟨store, opened, rfl⟩ := Registration.contribute_eq_ok_iff.1 contributed
      refine ⟨first, rest, rfl, (listsAlone_of_joinGroup joins).joinContributions ?_ tail⟩
      exact fun registration inside => oneGroup registration (List.mem_cons_of_mem _ inside)

/-- The installed group repeats a version exactly where the first registration does. -/
theorem installed_group_lists_versions (built : builder.Builds registrations state server) :
    ∃ first rest info, registrations = first :: rest ∧
      server.groups = .singleton first.kind.group info ∧ info.name = first.kind.group ∧
      info.versions = first.groupVersions ++
        ((rest.flatMap Registration.groupVersions).removeAll first.groupVersions).eraseDups ∧
      (builder.register registrations).orderedGroupVersions =
        (registrations.flatMap Registration.groupVersions).eraseDups ∧
      info.versions.eraseDups = (builder.register registrations).orderedGroupVersions ∧
      (info.versions.Nodup ↔ first.groupVersions.Nodup) ∧
      (info.versions = (builder.register registrations).orderedGroupVersions ↔
        first.groupVersions.Nodup) ∧
      ∀ version, version ∈ info.storage.keys ↔
        ∃ groupVersion ∈ info.versions, groupVersion.version = version := by
  obtain ⟨first, rest, rfl, info, one, named, versions, inStep⟩ :=
    listsAlone_of_builds alone unversioned built
  have ordered := orderedGroupVersions_register unversioned (first :: rest)
  have different : info.versions.Nodup ↔ first.groupVersions.Nodup := by
    rw [versions, ApiGroup.nodup_foldl_addNew]
  have reduced : (builder.register (first :: rest)).orderedGroupVersions =
      info.versions.foldl ApiGroup.addNew [] := by
    rw [ordered, versions, List.flatMap_cons, List.foldl_append, ApiGroup.foldl_addNew_foldl]
  refine ⟨first, rest, info, rfl, one, named, ?_, ?_, ?_, different, ?_, inStep⟩
  · rw [versions, ApiGroup.foldl_addNew]
  · rw [ordered, ApiGroup.foldl_addNew_nil]
  · rw [reduced, ApiGroup.foldl_addNew_nil]
  · rw [← different, reduced]
    constructor
    · intro same
      rw [same, ApiGroup.nodup_foldl_addNew]
      exact List.nodup_nil
    · intro each
      have whole : ([] ++ info.versions).Nodup := each
      exact (ApiGroup.foldl_addNew_of_nodup whole).symm

end Installed

def repeatedBarRegistration : Registration Unit where
  Spec := Catalog.MessageSpec
  Status := Catalog.NoStatus
  kind := Catalog.bar
  capabilities := .none
  groupVersions := [Catalog.bar.groupVersion, Catalog.bar.groupVersion]
  handler := ⟨_, _⟩
  accepted := rfl

/-- The bars are registered twice at one version, and the gadgets at two. -/
theorem repeated_version_listed_twice :
    ∃ server info,
      sampleBuilder.Builds [repeatedBarRegistration, gadgetRegistration] () server ∧
      server.groups = .singleton Catalog.sampleGroup info ∧
      info.versions = [⟨Catalog.sampleGroup, "v1"⟩, ⟨Catalog.sampleGroup, "v1"⟩,
        ⟨Catalog.sampleGroup, "v1beta1"⟩] ∧
      ¬ info.versions.Nodup ∧
      (sampleBuilder.register [repeatedBarRegistration, gadgetRegistration]).orderedGroupVersions =
        [⟨Catalog.sampleGroup, "v1"⟩, ⟨Catalog.sampleGroup, "v1beta1"⟩] := by
  have succeeds : ((sampleBuilder.register
      [repeatedBarRegistration, gadgetRegistration]).build ()).1.isOk = true := by
    decide +kernel
  cases built : ((sampleBuilder.register
      [repeatedBarRegistration, gadgetRegistration]).build ()).1 with
  | error error =>
      rw [built] at succeeds
      cases succeeds
  | ok server =>
      obtain ⟨first, rest, info, whole, one, _, versions, ordered, _, different, _⟩ :=
        installed_group_lists_versions rfl rfl built
      obtain ⟨rfl, rfl⟩ := List.cons.inj whole
      refine ⟨server, info, built, one, ?_, ?_, ?_⟩
      · rw [versions]
        decide +kernel
      · rw [different]
        decide +kernel
      · rw [ordered]
        decide +kernel

end Builder

end ResourceApi
