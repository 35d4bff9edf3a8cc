/-
This file shows that the mappings of a registry fit together. Both ends of a mapping are registered
and different, and a component follows one other at most. Mappings that fit can be declared in any
order.
-/

import ResourceApi.Proofs.Registry.Declaration

namespace ResourceApi

/-- A mapping is declared by its ends and its function. -/
def EmulationMapping.declaration (mapping : EmulationMapping) : Declaration :=
  .map mapping.source mapping.target mapping.mapping

def Declaration.isMapping : Declaration → Bool
  | .map _ _ _ => true
  | _ => false

namespace Registry

variable {registry : Registry}

def withMappings (registry : Registry) (mappings : List EmulationMapping) : Registry :=
  { registry with mappings }

/-- This is what holds of the mappings of a registry. -/
structure WellWired (registry : Registry) : Prop where
  apart : ∀ mapping ∈ registry.mappings, mapping.source ≠ mapping.target
  source : ∀ mapping ∈ registry.mappings, registry.isRegistered mapping.source = true
  target : ∀ mapping ∈ registry.mappings, registry.isRegistered mapping.target = true
  single : registry.mappings.Pairwise fun earlier later => earlier.target ≠ later.target

theorem wellWired_empty : WellWired .empty :=
  ⟨nofun, nofun, nofun, List.Pairwise.nil⟩

/-- A registration takes no component away. -/
theorem WellWired.registerOrKeep (wired : registry.WellWired) (name : String)
    (component : Component) : (registry.registerOrKeep name component).WellWired := by
  rcases registerOrKeep_cases registry name component with kept | added
  · rw [kept]
    exact wired
  · rw [added]
    exact ⟨wired.apart, fun mapping inside => Dict.contains_insert (wired.source mapping inside),
      fun mapping inside => Dict.contains_insert (wired.target mapping inside), wired.single⟩

theorem WellWired.withMappings {order : List EmulationMapping} (wired : registry.WellWired)
    (same : order.Perm registry.mappings) : (registry.withMappings order).WellWired where
  apart := fun mapping inside => wired.apart mapping (same.mem_iff.1 inside)
  source := fun mapping inside => wired.source mapping (same.mem_iff.1 inside)
  target := fun mapping inside => wired.target mapping (same.mem_iff.1 inside)
  single := (same.pairwise_iff Ne.symm).2 wired.single

/-- A mapping is accepted exactly if it fits to those that are there. -/
theorem map_eq_ok_iff {result : Registry} {mapping : EmulationMapping} :
    registry.map mapping.source mapping.target mapping.mapping = .ok result ↔
      (mapping.source ≠ mapping.target ∧ registry.isRegistered mapping.source = true ∧
        registry.isRegistered mapping.target = true ∧
        ∀ existing ∈ registry.mappings, existing.target ≠ mapping.target) ∧
      result = registry.withMappings (registry.mappings ++ [mapping]) := by
  have unused : (registry.mappings.find? fun existing => existing.target = mapping.target) = none ↔
      ∀ existing ∈ registry.mappings, existing.target ≠ mapping.target := by
    simp
  rw [← unused]
  unfold map
  constructor
  · intro accepted
    split at accepted
    · cases accepted
    next different =>
      split at accepted
      · cases accepted
      next sourceKnown =>
        split at accepted
        · cases accepted
        next targetKnown =>
          split at accepted
          · cases accepted
          next free =>
            cases accepted
            exact ⟨⟨different, by simpa using sourceKnown, by simpa using targetKnown, free⟩, rfl⟩
  · rintro ⟨⟨different, sourceKnown, targetKnown, free⟩, rfl⟩
    rw [if_neg different, sourceKnown, targetKnown, free]
    rfl

/-- What the checks have let through is wired. -/
theorem WellWired.map {result : Registry} {mapping : EmulationMapping} (wired : registry.WellWired)
    (accepted : registry.map mapping.source mapping.target mapping.mapping = .ok result) :
    result.WellWired := by
  obtain ⟨⟨different, sourceKnown, targetKnown, free⟩, rfl⟩ := map_eq_ok_iff.1 accepted
  refine ⟨?_, ?_, ?_, ?_⟩
  · exact List.forall_mem_append.2 ⟨wired.apart, List.forall_mem_singleton.2 different⟩
  · exact List.forall_mem_append.2 ⟨wired.source, List.forall_mem_singleton.2 sourceKnown⟩
  · exact List.forall_mem_append.2 ⟨wired.target, List.forall_mem_singleton.2 targetKnown⟩
  · refine List.pairwise_append.2 ⟨wired.single, List.pairwise_singleton _ _, ?_⟩
    intro existing inside added isAdded
    obtain rfl := List.mem_singleton.1 isAdded
    exact free existing inside

theorem WellWired.declare (wired : registry.WellWired) (declaration : Declaration) :
    (registry.declare declaration).WellWired := by
  cases declaration with
  | register name candidate =>
      rw [declare_register]
      exact wired.registerOrKeep name candidate.component
  | registerOrKeep name candidate => exact wired.registerOrKeep name candidate.component
  | map source target mapping =>
      rw [Registry.declare]
      cases mapped : registry.map source target mapping with
      | error cause => exact wired
      | ok result => exact @WellWired.map registry result ⟨source, target, mapping⟩ wired mapped
  | requestEmulation component version =>
      exact ⟨wired.apart, wired.source, wired.target, wired.single⟩
  | requestGates component overrides =>
      exact ⟨wired.apart, wired.source, wired.target, wired.single⟩

theorem WellWired.declareAll (wired : registry.WellWired) (declarations : List Declaration) :
    (declarations.foldl Registry.declare registry).WellWired := by
  induction declarations generalizing registry with
  | nil => exact wired
  | cons declaration rest inductionHypothesis =>
      exact inductionHypothesis (wired.declare declaration)

theorem wellWired_declared (declarations : List Declaration) :
    (declared declarations).WellWired :=
  wellWired_empty.declareAll declarations

theorem declare_declaration {mapping : EmulationMapping} {result : Registry}
    (accepted : registry.map mapping.source mapping.target mapping.mapping = .ok result) :
    registry.declare mapping.declaration = result := by
  rw [EmulationMapping.declaration, Registry.declare, accepted]

/-- Mappings that fit together are all accepted. -/
theorem declare_mappings {mappings : List EmulationMapping}
    (wired : (registry.withMappings (registry.mappings ++ mappings)).WellWired) :
    (mappings.map EmulationMapping.declaration).foldl Registry.declare registry =
      registry.withMappings (registry.mappings ++ mappings) := by
  induction mappings generalizing registry with
  | nil => simp [withMappings]
  | cons mapping rest inductionHypothesis =>
      have here : mapping ∈ registry.mappings ++ mapping :: rest := by simp
      have free (existing : EmulationMapping) (inside : existing ∈ registry.mappings) :
          existing.target ≠ mapping.target :=
        (List.pairwise_append.1 wired.single).2.2 existing inside mapping List.mem_cons_self
      have accepted : registry.map mapping.source mapping.target mapping.mapping =
          .ok (registry.withMappings (registry.mappings ++ [mapping])) :=
        map_eq_ok_iff.2 ⟨⟨wired.apart mapping here, wired.source mapping here,
          wired.target mapping here, free⟩, rfl⟩
      have behind : registry.mappings ++ mapping :: rest =
          (registry.mappings ++ [mapping]) ++ rest := by simp
      rw [behind] at wired ⊢
      rw [List.map_cons, List.foldl_cons, declare_declaration accepted]
      exact inductionHypothesis wired

/-- Mappings have no part in what else is declared. -/
theorem declare_withMappings_nil (registry : Registry) (declaration : Declaration) :
    (registry.declare declaration).withMappings [] =
      if declaration.isMapping then registry.withMappings []
      else (registry.withMappings []).declare declaration := by
  cases declaration with
  | register name candidate =>
      have known : (registry.withMappings []).isRegistered name = registry.isRegistered name := rfl
      simp only [declare, register, known, Declaration.isMapping]
      cases registry.isRegistered name <;> rfl
  | registerOrKeep name candidate =>
      have known : (registry.withMappings []).isRegistered name = registry.isRegistered name := rfl
      simp only [declare, registerOrKeep, known, Declaration.isMapping]
      cases registry.isRegistered name <;> rfl
  | map source target mapping =>
      rw [declare_map_eq]
      rfl
  | requestEmulation component version => rfl
  | requestGates component overrides => rfl

theorem declareAll_withMappings_nil (registry : Registry) (declarations : List Declaration) :
    (declarations.filter fun declaration => !declaration.isMapping).foldl declare
        (registry.withMappings []) =
      (declarations.foldl declare registry).withMappings [] := by
  induction declarations generalizing registry with
  | nil => rfl
  | cons declaration rest inductionHypothesis =>
      have step := declare_withMappings_nil registry declaration
      rw [List.foldl_cons, ← inductionHypothesis, step, List.filter_cons]
      cases declaration.isMapping <;> rfl

/-- What has been declared can be declared with the mappings in any order. -/
theorem exists_reordered {declarations : List Declaration} {order : List EmulationMapping}
    (same : order.Perm (declared declarations).mappings) :
    ∃ reordered, declared reordered = (declared declarations).withMappings order := by
  refine ⟨(declarations.filter fun declaration => !declaration.isMapping) ++
    order.map EmulationMapping.declaration, ?_⟩
  have wired := (wellWired_declared declarations).withMappings same
  have others : (declarations.filter fun declaration => !declaration.isMapping).foldl declare
      .empty = (declared declarations).withMappings [] :=
    declareAll_withMappings_nil .empty declarations
  rw [declared, List.foldl_append, others]
  exact declare_mappings wired

end Registry

end ResourceApi
