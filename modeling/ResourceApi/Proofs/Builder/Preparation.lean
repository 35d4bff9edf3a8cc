/-
This file shows what a builder must have in order before it serves anything, and that none of it
depends on the order of the group versions.
-/

import ResourceApi.Builder

namespace ResourceApi

theorem ApiGroup.mem_addNew {known : List GroupVersion} {version sought : GroupVersion} :
    sought ∈ addNew known version ↔ sought ∈ known ∨ sought = version := by
  rw [addNew]
  split
  next contained =>
    have inside : version ∈ known := by simpa using contained
    constructor
    · exact Or.inl
    · rintro (old | rfl)
      · exact old
      · exact inside
  · simp

theorem ApiGroup.mem_foldl_addNew {known versions : List GroupVersion} {sought : GroupVersion} :
    sought ∈ versions.foldl addNew known ↔ sought ∈ known ∨ sought ∈ versions := by
  induction versions generalizing known with
  | nil => simp
  | cons head rest inductionHypothesis =>
      rw [List.foldl_cons, inductionHypothesis, mem_addNew, List.mem_cons, or_assoc]

namespace Options

theorem encodeProblems_eq_nil_iff {place : Nat} {versions : List String} :
    encodeProblems place versions = [] ↔ ∀ version ∈ versions, Text.trim version.toList ≠ [] := by
  induction versions generalizing place with
  | nil => simp [encodeProblems]
  | cons head rest inductionHypothesis =>
      rw [encodeProblems, List.append_eq_nil_iff, inductionHypothesis, List.forall_mem_cons]
      refine and_congr ?_ Iff.rfl
      split
      next blank => simp [blank]
      next visible => simp [visible]

/-- Valid options have an absolute root, and versions and gates that can be read. -/
theorem problems_eq_nil_iff {options : Options} :
    options.problems = [] ↔
      options.rootProblem? = none ∧
        (∀ version ∈ options.storage.encodeVersions, Text.trim version.toList ≠ []) ∧
          options.emulationProblem? = none ∧
            options.featureGates.keys.filterMap gateProblem? = [] := by
  simp only [problems, List.append_eq_nil_iff, Option.toList_eq_nil_iff,
    encodeProblems_eq_nil_iff, and_assoc]

/-- Which versions are blank does not depend on their order. -/
theorem problems_eq_nil_of_mem {options : Options} (valid : options.problems = [])
    {versions : List String}
    (known : ∀ version ∈ versions, version ∈ options.storage.encodeVersions) :
    { options with storage.encodeVersions := versions }.problems = [] := by
  obtain ⟨root, visible, emulation, gates⟩ := problems_eq_nil_iff.1 valid
  refine problems_eq_nil_iff.2 ⟨root, ?_, emulation, gates⟩
  intro version listed
  exact visible version (known version listed)

end Options

namespace Builder

variable {State : Type} {builder : Builder State}

theorem checkGroups_eq_ok_iff {expected name : String} {groupVersions : List GroupVersion}
    (named : expected ≠ "") :
    checkGroups expected groupVersions = .ok name ↔
      (∀ groupVersion ∈ groupVersions, groupVersion.group = expected) ∧ name = expected := by
  induction groupVersions with
  | nil => simp [checkGroups, eq_comm]
  | cons head rest inductionHypothesis =>
      rw [checkGroups, List.forall_mem_cons]
      split
      next unnamed =>
        have different : head.group ≠ expected := by rw [unnamed]; exact named.symm
        simp [different]
      · split
        next same => simp [inductionHypothesis, same]
        next different => simp [different]

/-- All group versions are in the one group, and that has a name. -/
theorem groupName_eq_ok_iff {name : String} (registered : builder.groupVersions ≠ []) :
    builder.groupName = .ok name ↔
      name ≠ "" ∧ ∀ groupVersion ∈ builder.groupVersions, groupVersion.group = name := by
  rw [groupName]
  split
  next nothing => exact absurd nothing registered
  next first rest listed =>
    rw [listed, List.forall_mem_cons]
    split
    next unnamed =>
      constructor
      · intro impossible
        cases impossible
      · rintro ⟨named, same, _⟩
        exact absurd (same.symm.trans unnamed) named
    next named =>
      rw [checkGroups_eq_ok_iff named]
      constructor
      · rintro ⟨sameGroup, rfl⟩
        exact ⟨named, rfl, sameGroup⟩
      · rintro ⟨_, rfl, sameGroup⟩
        exact ⟨sameGroup, rfl⟩

theorem mem_orderedGroupVersions {groupVersion : GroupVersion} :
    groupVersion ∈ builder.orderedGroupVersions ↔ groupVersion ∈ builder.groupVersions := by
  rw [orderedGroupVersions, ApiGroup.mem_foldl_addNew]
  simp

theorem orderedGroupVersions_isEmpty (listed : builder.groupVersions ≠ []) :
    builder.orderedGroupVersions.isEmpty = false := by
  obtain ⟨first, inside⟩ := List.exists_mem_of_ne_nil _ listed
  exact List.isEmpty_eq_false_iff_exists_mem.2 ⟨first, mem_orderedGroupVersions.2 inside⟩

theorem problems_eq_nil_iff {options : Options} {registry : Registry} :
    problems options registry = [] ↔ options.problems = [] ∧ registry.problems = [] := by
  simp [problems]

/-- A builder in this state has everything in order for a server. -/
structure Prepared (builder : Builder State) (group : String) (options : Options)
    (registry : Registry) : Prop where
  registered : builder.groupVersions ≠ []
  named : group ≠ ""
  oneGroup : ∀ groupVersion ∈ builder.groupVersions, groupVersion.group = group
  settled : options = builder.settledOptions group
  declared : builder.settledRegistry options = .ok registry
  valid : options.problems = [] ∧ registry.problems = []

theorem prepare_eq_ok_iff {options : Options} {registry : Registry} :
    builder.prepare = .ok (options, registry) ↔
      ∃ group, builder.Prepared group options registry := by
  constructor
  · intro prepared
    rw [prepare] at prepared
    split at prepared
    · cases prepared
    next group known =>
      cases declared : builder.settledRegistry (builder.settledOptions group) with
      | error error => simp [declared] at prepared
      | ok made =>
          simp only [declared] at prepared
          split at prepared
          · cases prepared
          next given =>
            split at prepared
            next valid =>
              cases prepared
              have registered : builder.groupVersions ≠ [] := by
                intro nothing
                simp [orderedGroupVersions, nothing] at given
              obtain ⟨named, oneGroup⟩ := (groupName_eq_ok_iff registered).1 known
              exact ⟨group, registered, named, oneGroup, rfl, declared,
                problems_eq_nil_iff.1 (List.isEmpty_iff.1 valid)⟩
            · cases prepared
  · rintro ⟨group, prepared⟩
    have known := (groupName_eq_ok_iff prepared.registered).2 ⟨prepared.named, prepared.oneGroup⟩
    have given := orderedGroupVersions_isEmpty prepared.registered
    have valid := problems_eq_nil_iff.2 prepared.valid
    have declared := prepared.declared
    rw [prepared.settled] at valid declared
    rw [prepare, known]
    simp only [declared, given, valid, prepared.settled]
    rfl

/-- A builder that reports a problem refuses to build. -/
theorem build_of_reported {group message : String} {registry : Registry}
    (grouped : builder.groupName = .ok group) (listed : builder.groupVersions ≠ [])
    (settled : builder.settledRegistry (builder.settledOptions group) = .ok registry)
    (reported : message ∈ problems (builder.settledOptions group) registry) (state : State) :
    ∃ messages, message ∈ messages ∧
      builder.build state = (.error (.invalid messages), state) := by
  have given := orderedGroupVersions_isEmpty listed
  have invalid : (problems (builder.settledOptions group) registry).isEmpty = false :=
    List.isEmpty_eq_false_iff_exists_mem.2 ⟨message, reported⟩
  refine ⟨_, reported, ?_⟩
  simp only [build, prepare, grouped, settled, given, invalid, Bool.false_eq_true, if_false]

/-- The order of the group versions matters to their list alone. -/
theorem Prepared.reorder {group : String} {options : Options} {registry : Registry}
    (prepared : builder.Prepared group options registry) {groupVersions : List GroupVersion}
    (contributions : List (Contribution State))
    (same : ∀ groupVersion, groupVersion ∈ groupVersions ↔ groupVersion ∈ builder.groupVersions) :
    ∃ encodeVersions, { builder with groupVersions, contributions }.Prepared group
      { options with storage.encodeVersions := encodeVersions } registry := by
  refine ⟨({ builder with groupVersions } : Builder State).orderedGroupVersions.map
    GroupVersion.display, ?_, prepared.named, ?_, ?_, ?_, ?_, prepared.valid.2⟩
  · intro nothing
    obtain ⟨first, inside⟩ := List.exists_mem_of_ne_nil _ prepared.registered
    have reordered := (same first).2 inside
    rw [show groupVersions = [] from nothing] at reordered
    cases reordered
  · intro groupVersion inside
    exact prepared.oneGroup groupVersion ((same groupVersion).1 inside)
  · rw [prepared.settled]
    rfl
  · exact prepared.declared
  · refine Options.problems_eq_nil_of_mem prepared.valid.1 ?_
    intro version listed
    obtain ⟨groupVersion, inside, rfl⟩ := List.mem_map.1 listed
    have before := (same groupVersion).1 (mem_orderedGroupVersions.1 inside)
    rw [prepared.settled]
    exact List.mem_map_of_mem (mem_orderedGroupVersions.2 before)

end Builder

end ResourceApi
