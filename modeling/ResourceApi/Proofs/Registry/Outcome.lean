/-
This file shows that what takes effect in a registry depends on what was declared, and not on when
or on attempts that failed in between. A later attempt starts from what an earlier one has left, but
it makes the same of the components.
-/

import ResourceApi.Proofs.Registry.History

namespace ResourceApi

namespace Declaration

/-- A component that is declared under the name. -/
def component? (name : String) : Declaration → Option Component
  | .register declared candidate | .registerOrKeep declared candidate =>
      if declared = name then some candidate.component else none
  | _ => none

def gates? (name : String) : Declaration → Option (Dict Bool)
  | .requestGates component overrides => if component = name then some overrides else none
  | _ => none

/-- A name that is taken is not given again, so the first declaration counts. -/
def registered? (name : String) (declarations : List Declaration) : Option Component :=
  declarations.findSome? (component? name)

end Declaration

namespace Registry

/-- Every attempt in the history fails. -/
def AttemptsFail : Registry → List Operation → Prop
  | _, [] => True
  | registry, operation :: rest =>
      (operation = .set → ∃ error, registry.set.1 = .error error) ∧
        AttemptsFail (registry.operate operation) rest

/-- The requests make of each component what they would have made of it when it was registered. -/
structure Pending (registry : Registry) (declarations : List Declaration) : Prop where
  reflects : registry.Reflects declarations
  wired : registry.WellWired
  asked : ∀ name, registry.gateRequests.contains name =
    (Declaration.last? (Declaration.gates? name) declarations).isSome
  component : ∀ name, (registry.components.get? name).map (registry.requested name) =
    (Declaration.registered? name declarations).map (registry.requested name)

theorem pending_empty : Pending .empty [] :=
  ⟨reflects_empty, wellWired_empty, fun _ => rfl, fun _ => rfl⟩

section Requests

variable (registry : Registry) (name : String)

/-- A request for a version goes before the one that there was. -/
theorem requested_requestEmulation (other : String) (version : Version) (component : Component) :
    (registry.requestEmulation other version).requested name component =
      if name = other then emulate (registry.requested name component) version.majorMinor
      else registry.requested name component := by
  rw [requested_eq, requested_eq]
  simp only [Registry.requestEmulation, emulating, Dict.get?_insert]
  by_cases here : name = other
  · rw [if_pos here, if_pos here]
    cases registry.gateRequests.get? name <;> cases registry.emulationRequests.get? name <;> rfl
  · rw [if_neg here, if_neg here]

/-- A request for gates joins those that there were. -/
theorem requested_requestGates (other : String) (overrides : Dict Bool) (component : Component) :
    (registry.requestGates other overrides).requested name component =
      if name = other then overrideGate (registry.requested name component) overrides
      else registry.requested name component := by
  have versions : (registry.requestGates other overrides).emulating name component =
      registry.emulating name component := rfl
  rw [requested_eq, requested_eq, versions]
  simp only [Registry.requestGates, Dict.get?_insert]
  by_cases here : name = other
  · subst here
    rw [if_pos rfl, if_pos rfl]
    cases registry.gateRequests.get? name with
    | none =>
        have alone : Dict.insertAll .empty overrides.entries = overrides :=
          Dict.ofList_entries overrides
        rw [Option.getD_none, alone]
        rfl
    | some gates => exact (overrideGate_overrideGate _ gates overrides).symm
  · rw [if_neg here, if_neg here]

/-- The requests after a declaration go on from what they were before. -/
theorem exists_requested_declare (declaration : Declaration) :
    ∃ further : Component → Component, ∀ component,
      (registry.declare declaration).requested name component =
        further (registry.requested name component) := by
  cases declaration with
  | register other candidate =>
      rw [declare_register, registerOrKeep_eq]
      exact ⟨id, fun _ => rfl⟩
  | registerOrKeep other candidate =>
      rw [declare, registerOrKeep_eq]
      exact ⟨id, fun _ => rfl⟩
  | map source target mapping =>
      rw [declare_map_eq]
      exact ⟨id, fun _ => rfl⟩
  | requestEmulation other version =>
      exact ⟨fun component => if name = other then emulate component version.majorMinor
        else component, requested_requestEmulation registry name other version⟩
  | requestGates other overrides =>
      exact ⟨fun component => if name = other then overrideGate component overrides
        else component, requested_requestGates registry name other overrides⟩

end Requests

theorem registered?_append (name : String) (declarations : List Declaration)
    (declaration : Declaration) :
    Declaration.registered? name (declarations ++ [declaration]) =
      (Declaration.registered? name declarations).or (declaration.component? name) := by
  simp [Declaration.registered?, List.findSome?_append]

variable {registry : Registry} {declarations : List Declaration}

theorem get?_declare (declaration : Declaration) (name : String) :
    (registry.declare declaration).components.get? name =
      (registry.components.get? name).or (declaration.component? name) := by
  have added (other : String) (component : Component) :
      (registry.registerOrKeep other component).components.get? name =
        (registry.components.get? name).or (if other = name then some component else none) := by
    rw [get?_registerOrKeep]
    by_cases here : name = other
    · subst here
      cases registry.components.get? name <;> simp
    · simp [here, Ne.symm here]
  cases declaration with
  | register other candidate =>
      rw [declare_register]
      exact added other candidate.component
  | registerOrKeep other candidate => exact added other candidate.component
  | map source target mapping =>
      rw [declare_map_eq]
      exact Option.or_none.symm
  | requestEmulation other version => exact Option.or_none.symm
  | requestGates other overrides => exact Option.or_none.symm

theorem contains_gateRequests_declare (declaration : Declaration) (name : String) :
    (registry.declare declaration).gateRequests.contains name =
      ((declaration.gates? name).isSome || registry.gateRequests.contains name) := by
  cases declaration with
  | register other candidate =>
      rw [declare_register, registerOrKeep_eq]
      rfl
  | registerOrKeep other candidate =>
      rw [declare, registerOrKeep_eq]
      rfl
  | map source target mapping =>
      rw [declare_map_eq]
      rfl
  | requestEmulation other version => rfl
  | requestGates other overrides =>
      simp only [declare, Registry.requestGates, Declaration.gates?, Dict.contains,
        Dict.get?_insert]
      by_cases here : name = other
      · simp [here]
      · simp [here, Ne.symm here]

theorem Pending.declare (pending : registry.Pending declarations) (declaration : Declaration) :
    (registry.declare declaration).Pending (declarations ++ [declaration]) where
  reflects := pending.reflects.declare declaration
  wired := pending.wired.declare declaration
  asked := by
    intro name
    rw [Declaration.last?_append, contains_gateRequests_declare, pending.asked]
    cases declaration.gates? name <;> rfl
  component := by
    intro name
    obtain ⟨further, goesOn⟩ := exists_requested_declare registry name declaration
    have before := pending.component name
    have onward : (registry.declare declaration).requested name =
        further ∘ registry.requested name := funext goesOn
    rw [get?_declare, registered?_append, onward]
    have same : (registry.components.get? name).map (further ∘ registry.requested name) =
        (Declaration.registered? name declarations).map
          (further ∘ registry.requested name) := by
      rw [← Option.map_map, before, Option.map_map]
    rw [Option.map_or, Option.map_or, same]

theorem attempted_sound (missing name : String) {component : Component} (sound : component.Sound) :
    (registry.attempted missing name component).Sound := by
  rcases @attempted_cases registry name missing component with same | same | same
  · rw [same]
    exact sound
  · rw [same]
    unfold emulating
    cases registry.emulationRequests.get? name with
    | none => exact sound
    | some version => exact ⟨rfl, sound.ordered⟩
  · rw [same]
    exact ⟨requested_plain sound.plain, (requested_known component).symm ▸ sound.ordered⟩

/-- An attempt that fails changes nothing of what has been declared. -/
theorem Pending.attempt (pending : registry.Pending declarations) {error : VersionError}
    (failed : registry.set.1 = .error error) : registry.set.2.Pending declarations := by
  have wired := pending.wired.set
  cases attempt : registry.set with
  | mk outcome result =>
      rw [attempt] at failed wired
      cases failed
      obtain ⟨missing, _, _, rfl⟩ := pending.wired.set_error attempt
      refine ⟨⟨pending.reflects.notApplied, pending.reflects.version, pending.reflects.gate, ?_⟩,
        wired, pending.asked, ?_⟩
      · intro name component found
        simp only [Dict.get?_map, Option.map_eq_some_iff] at found
        obtain ⟨before, known, rfl⟩ := found
        exact attempted_sound missing name (pending.reflects.sound name before known)
      · intro name
        rw [Dict.get?_map, Option.map_map]
        refine Eq.trans ?_ (pending.component name)
        congr 1
        funext component
        exact requested_attempted missing component

theorem Pending.operateAll (pending : registry.Pending declarations) {history : List Operation}
    (fails : AttemptsFail registry history) :
    (history.foldl operate registry).Pending
      (declarations ++ Operation.declarations history) := by
  induction history generalizing registry declarations with
  | nil => simpa [Operation.declarations] using pending
  | cons operation rest inductionHypothesis =>
      obtain ⟨here, later⟩ := fails
      cases operation with
      | declare declaration =>
          have tail := inductionHypothesis (pending.declare declaration) later
          rwa [List.append_assoc] at tail
      | set =>
          obtain ⟨error, failed⟩ := here rfl
          exact inductionHypothesis (pending.attempt failed) later

theorem pending_ofHistory {history : List Operation} (fails : AttemptsFail .empty history) :
    (ofHistory history).Pending (Operation.declarations history) :=
  pending_empty.operateAll fails

/-- The same was requested last of each component and of each gate. -/
structure SameRequests (first second : List Declaration) : Prop where
  version : ∀ name, Declaration.last? (Declaration.version? name) first =
    Declaration.last? (Declaration.version? name) second
  asked : ∀ name, (Declaration.last? (Declaration.gates? name) first).isSome =
    (Declaration.last? (Declaration.gates? name) second).isSome
  gate : ∀ name feature, Declaration.last? (Declaration.gate? name feature) first =
    Declaration.last? (Declaration.gate? name feature) second

theorem SameRequests.symm {first second : List Declaration} (same : SameRequests first second) :
    SameRequests second first :=
  ⟨fun name => (same.version name).symm, fun name => (same.asked name).symm,
    fun name feature => (same.gate name feature).symm⟩

section Agreement

variable {first second : Registry} {firstDeclared secondDeclared : List Declaration}

/-- Registries in which the same was requested have the same requests. -/
theorem Pending.requests_eq (firstPending : first.Pending firstDeclared)
    (secondPending : second.Pending secondDeclared)
    (same : SameRequests firstDeclared secondDeclared) :
    first.emulationRequests = second.emulationRequests ∧
      first.gateRequests = second.gateRequests := by
  constructor
  · apply Dict.eq_of_get?
    intro name
    rw [firstPending.reflects.version, secondPending.reflects.version, same.version]
  · apply Dict.eq_of_bind_get?
    · intro name
      rw [firstPending.asked, secondPending.asked, same.asked]
    · intro name feature
      rw [firstPending.reflects.gate, secondPending.reflects.gate, same.gate]

end Agreement

section Samples

end Samples

end Registry

end ResourceApi
