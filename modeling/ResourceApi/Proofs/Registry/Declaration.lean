/-
This file defines what can be declared to a registry before its settings take effect. A registry
keeps the last request for each version and each feature, and all of its components are sound.
-/

import ResourceApi.Proofs.FeatureGate
import ResourceApi.Registry

namespace ResourceApi

/-- A component is registered with a version and a gate made as usual. -/
structure Candidate where
  component : Component
  version : component.version.Made
  gate : component.gate.Made

inductive Declaration where
  | register (name : String) (candidate : Candidate)
  | registerOrKeep (name : String) (candidate : Candidate)
  | map (source target : String) (mapping : VersionMapping)
  | requestEmulation (component : String) (version : Version)
  | requestGates (component : String) (overrides : Dict Bool)

namespace Declaration

def version? (name : String) : Declaration → Option Version
  | .requestEmulation component version => if component = name then some version else none
  | _ => none

def gate? (name feature : String) : Declaration → Option Bool
  | .requestGates component overrides =>
      if component = name then overrides.get? feature else none
  | _ => none

/-- Of all that the declarations say, the last counts. -/
def last? {Value : Type} (reads : Declaration → Option Value) (declarations : List Declaration) :
    Option Value :=
  declarations.reverse.findSome? reads

theorem last?_append {Value : Type} (reads : Declaration → Option Value)
    (declarations : List Declaration) (declaration : Declaration) :
    last? reads (declarations ++ [declaration]) =
      (reads declaration).or (last? reads declarations) := by
  rw [last?, List.reverse_append, List.reverse_singleton, List.singleton_append,
    List.findSome?_cons]
  cases reads declaration <;> rfl

end Declaration

/-- Its emulated version has no patch, and the specifications of its features are in order. -/
structure Component.Sound (component : Component) : Prop where
  plain : component.version.emulation.majorMinor = component.version.emulation
  ordered : FeatureGate.Ordered component.gate.known

theorem Candidate.sound (candidate : Candidate) : candidate.component.Sound :=
  ⟨candidate.version.majorMinor_emulation, candidate.gate.ordered⟩

namespace Registry

section Outcomes

variable (registry : Registry) (name source target : String) (component : Component)
  (mapping : VersionMapping)

theorem registerOrKeep_cases :
    registry.registerOrKeep name component = registry ∨
    registry.registerOrKeep name component =
      { registry with components := registry.components.insert name component } := by
  unfold registerOrKeep
  split
  · exact Or.inl rfl
  · exact Or.inr rfl

/-- A registration changes nothing but the components. -/
theorem registerOrKeep_eq :
    registry.registerOrKeep name component =
      { registry with components := (registry.registerOrKeep name component).components } := by
  unfold registerOrKeep
  split
  · rfl
  · rfl

/-- What is registered under other names stays. -/
theorem get?_registerOrKeep (sought : String) :
    (registry.registerOrKeep name component).components.get? sought =
      if sought = name then some ((registry.components.get? name).getD component)
      else registry.components.get? sought := by
  unfold registerOrKeep isRegistered Dict.contains
  cases known : registry.components.get? name with
  | some existing =>
      by_cases same : sought = name
      · simp [same, known]
      · simp [same]
  | none => simp [Dict.get?_insert]

theorem map_cases :
    (∃ cause, registry.map source target mapping = .error cause) ∨
    registry.map source target mapping =
      .ok { registry with mappings := registry.mappings ++ [⟨source, target, mapping⟩] } := by
  unfold map
  repeat' split
  · exact Or.inl ⟨_, rfl⟩
  · exact Or.inl ⟨_, rfl⟩
  · exact Or.inl ⟨_, rfl⟩
  · exact Or.inl ⟨_, rfl⟩
  · exact Or.inr rfl

end Outcomes

/-- A declaration that is refused changes nothing. -/
def declare (registry : Registry) : Declaration → Registry
  | .register name candidate =>
      match registry.register name candidate.component with
      | .ok registry => registry
      | .error _ => registry
  | .registerOrKeep name candidate => registry.registerOrKeep name candidate.component
  | .map source target mapping =>
      match registry.map source target mapping with
      | .ok registry => registry
      | .error _ => registry
  | .requestEmulation component version => registry.requestEmulation component version
  | .requestGates component overrides => registry.requestGates component overrides

/-- A name is given to the first component that is declared under it. -/
theorem declare_register (registry : Registry) (name : String) (candidate : Candidate) :
    registry.declare (.register name candidate) =
      registry.registerOrKeep name candidate.component := by
  rw [declare, register, registerOrKeep]
  by_cases taken : registry.isRegistered name = true
  · rw [if_pos taken, if_pos taken]
  · rw [if_neg taken, if_neg taken]

/-- A mapping that is declared changes nothing but the mappings. -/
theorem declare_map_eq (registry : Registry) (source target : String) (mapping : VersionMapping) :
    registry.declare (.map source target mapping) =
      { registry with mappings := (registry.declare (.map source target mapping)).mappings } := by
  rw [declare]
  rcases map_cases registry source target mapping with ⟨cause, refused⟩ | accepted
  · rw [refused]
  · rw [accepted]

/-- This registry is new but for the declarations. -/
def declared (declarations : List Declaration) : Registry :=
  declarations.foldl declare .empty

/-- The registry keeps what was requested last, and its settings have not taken effect. -/
structure Reflects (registry : Registry) (declarations : List Declaration) : Prop where
  notApplied : registry.applied = false
  version : ∀ name, registry.emulationRequests.get? name =
    (Declaration.last? (Declaration.version? name) declarations).map Version.majorMinor
  gate : ∀ name feature, (registry.gateRequests.get? name).bind (fun gates => gates.get? feature) =
    Declaration.last? (Declaration.gate? name feature) declarations
  sound : ∀ name component, registry.components.get? name = some component → component.Sound

theorem reflects_empty : Reflects .empty [] :=
  ⟨rfl, fun _ => rfl, fun _ _ => rfl, nofun⟩

variable {registry : Registry} {declarations : List Declaration}

/-- A declaration that requests nothing leaves the requests as they are. -/
theorem Reflects.silent (reflects : registry.Reflects declarations) {declaration : Declaration}
    (noVersion : ∀ name, declaration.version? name = none)
    (noGate : ∀ name feature, declaration.gate? name feature = none) :
    registry.Reflects (declarations ++ [declaration]) where
  notApplied := reflects.notApplied
  version := by
    intro name
    rw [Declaration.last?_append, noVersion, Option.none_or, reflects.version]
  gate := by
    intro name feature
    rw [Declaration.last?_append, noGate, Option.none_or, reflects.gate]
  sound := reflects.sound

/-- A component that is registered is as sound as the others. -/
theorem Reflects.registerOrKeep (reflects : registry.Reflects declarations) (name : String)
    (candidate : Candidate) :
    (registry.registerOrKeep name candidate.component).Reflects declarations := by
  rcases registerOrKeep_cases registry name candidate.component with kept | added
  · rw [kept]
    exact reflects
  · rw [added]
    refine ⟨reflects.notApplied, reflects.version, reflects.gate, ?_⟩
    intro sought component found
    simp only [Dict.get?_insert] at found
    split at found
    · cases found
      exact candidate.sound
    · exact reflects.sound sought component found

theorem Reflects.requestEmulation (reflects : registry.Reflects declarations) (component : String)
    (version : Version) :
    (registry.requestEmulation component version).Reflects
      (declarations ++ [.requestEmulation component version]) where
  notApplied := reflects.notApplied
  version := by
    intro name
    rw [Declaration.last?_append, Declaration.version?]
    simp only [Registry.requestEmulation, Dict.get?_insert, reflects.version]
    by_cases same : name = component
    · simp [same]
    · simp [same, Ne.symm same]
  gate := by
    intro name feature
    rw [Declaration.last?_append]
    exact reflects.gate name feature
  sound := reflects.sound

theorem Reflects.requestGates (reflects : registry.Reflects declarations) (component : String)
    (overrides : Dict Bool) :
    (registry.requestGates component overrides).Reflects
      (declarations ++ [.requestGates component overrides]) where
  notApplied := reflects.notApplied
  version := by
    intro name
    rw [Declaration.last?_append]
    exact reflects.version name
  gate := by
    intro name feature
    rw [Declaration.last?_append, Declaration.gate?, ← reflects.gate]
    simp only [Registry.requestGates, Dict.get?_insert]
    by_cases same : name = component
    · rw [if_pos same, if_pos same.symm, same, Option.bind_some,
        Dict.get?_insertAll overrides.increasing]
      cases registry.gateRequests.get? component with
      | none => rfl
      | some gates => rfl
    · rw [if_neg same, if_neg (Ne.symm same), Option.none_or]
  sound := reflects.sound

/-- Every declaration keeps the registry true to what was declared. -/
theorem Reflects.declare (reflects : registry.Reflects declarations) (declaration : Declaration) :
    (registry.declare declaration).Reflects (declarations ++ [declaration]) := by
  cases declaration with
  | register name candidate =>
      refine Reflects.silent ?_ (fun _ => rfl) (fun _ _ => rfl)
      rw [declare_register]
      exact reflects.registerOrKeep name candidate
  | registerOrKeep name candidate =>
      refine Reflects.silent ?_ (fun _ => rfl) (fun _ _ => rfl)
      exact reflects.registerOrKeep name candidate
  | map source target mapping =>
      refine Reflects.silent ?_ (fun _ => rfl) (fun _ _ => rfl)
      rw [declare_map_eq]
      exact ⟨reflects.notApplied, reflects.version, reflects.gate, reflects.sound⟩
  | requestEmulation component version => exact reflects.requestEmulation component version
  | requestGates component overrides => exact reflects.requestGates component overrides

theorem Reflects.declareAll (reflects : registry.Reflects declarations)
    (more : List Declaration) :
    (more.foldl Registry.declare registry).Reflects (declarations ++ more) := by
  induction more generalizing registry declarations with
  | nil => simpa using reflects
  | cons declaration rest inductionHypothesis =>
      have tail := inductionHypothesis (reflects.declare declaration)
      rwa [List.append_assoc] at tail

theorem reflects_declared (declarations : List Declaration) :
    (declared declarations).Reflects declarations :=
  reflects_empty.declareAll declarations

end Registry

end ResourceApi
