/-
This file says how a builder settles its registry: it registers the components, makes the requests
of its options, and lets them take effect.
-/

import ResourceApi.Builder
import ResourceApi.Proofs.Registry.Wiring

namespace ResourceApi

namespace Registry

/-- The settings take effect, but the requests stay as they are. -/
theorem emulationRequests_set (registry : Registry) :
    registry.set.2.emulationRequests = registry.emulationRequests := by
  unfold set
  repeat' split
  all_goals rfl

end Registry

namespace Builder

variable {State : Type} {builder : Builder State} {options : Options} {registry : Registry}
  {componentVersion kubeVersion : Version}

/-- The component as a builder registers it. -/
def ownComponent (builder : Builder State) (version : Version) : Component :=
  ⟨.new version, FeatureGate.empty.addVersioned builder.features⟩

/-- The component that every server depends on, as a builder registers it. -/
def kubeDefault (version : Version) : Component :=
  ⟨.new version, .empty⟩

/-- By this mapping the second component follows the first. -/
def kubeMapping (component : String) (componentVersion kubeVersion : Version) : EmulationMapping :=
  ⟨component, kubeComponent,
    dependentVersionMapping componentVersion.majorMinor kubeVersion.majorMinor⟩

/-- The registry with both components, each as it was if it was there before. -/
def withComponents (builder : Builder State) (component : String) (registry : Registry)
    (componentVersion kubeVersion : Version) : Registry :=
  (registry.registerOrKeep component (builder.ownComponent componentVersion)).registerOrKeep
    kubeComponent (kubeDefault kubeVersion)

theorem withComponents_eq (component : String) :
    builder.withComponents component registry componentVersion kubeVersion =
      { registry with
        components :=
          (builder.withComponents component registry componentVersion kubeVersion).components } := by
  rw [withComponents, Registry.registerOrKeep_eq,
    Registry.registerOrKeep_eq registry component]

theorem withComponents_mappings (component : String) :
    (builder.withComponents component registry componentVersion kubeVersion).mappings =
      registry.mappings := by
  rw [withComponents_eq]

theorem get?_withComponents {component : String} (different : component ≠ kubeComponent)
    (sought : String) :
    (builder.withComponents component registry componentVersion kubeVersion).components.get?
        sought =
      if sought = component then
        some ((registry.components.get? component).getD (builder.ownComponent componentVersion))
      else if sought = kubeComponent then
        some ((registry.components.get? kubeComponent).getD (kubeDefault kubeVersion))
      else registry.components.get? sought := by
  rw [withComponents, Registry.get?_registerOrKeep, Registry.get?_registerOrKeep,
    Registry.get?_registerOrKeep, if_neg different.symm]
  by_cases own : sought = component
  · rw [if_pos own, if_pos own, if_neg (own ▸ different)]
  · rw [if_neg own, if_neg own]

/-- A component that follows no other can be made to follow the builder's own. -/
theorem map_withComponents {component : String} (different : component ≠ kubeComponent)
    (free : ∀ existing ∈ registry.mappings, existing.target ≠ kubeComponent) :
    (builder.withComponents component registry componentVersion kubeVersion).map component
        kubeComponent (kubeMapping component componentVersion kubeVersion).mapping =
      .ok ((builder.withComponents component registry componentVersion kubeVersion).withMappings
        (registry.mappings ++ [kubeMapping component componentVersion kubeVersion])) := by
  let both := builder.withComponents component registry componentVersion kubeVersion
  have mappings : both.mappings = registry.mappings := withComponents_mappings component
  have componentKnown : both.isRegistered component = true :=
    Dict.contains_eq_true_iff.2 ⟨_, by rw [get?_withComponents different, if_pos rfl]⟩
  have kubeKnown : both.isRegistered kubeComponent = true :=
    Dict.contains_eq_true_iff.2 ⟨_, by
      rw [get?_withComponents different, if_neg different.symm, if_pos rfl]⟩
  have accepted : both.map component kubeComponent
      (kubeMapping component componentVersion kubeVersion).mapping =
        .ok (both.withMappings (both.mappings ++
          [kubeMapping component componentVersion kubeVersion])) :=
    (@Registry.map_eq_ok_iff both _ (kubeMapping component componentVersion kubeVersion)).2
      ⟨⟨different, componentKnown, kubeKnown, mappings ▸ free⟩, rfl⟩
  rwa [mappings] at accepted

theorem registerComponents_eq_ok {component : String}
    (componentParsed : Version.parse (builder.componentVersion.getD defaultComponentVersion) =
      .ok componentVersion)
    (kubeParsed : Version.parse (builder.kubeVersion.getD defaultKubeVersion) = .ok kubeVersion)
    (different : component ≠ kubeComponent)
    (free : ∀ existing ∈ registry.mappings, existing.target ≠ kubeComponent) :
    builder.registerComponents component registry =
      .ok ((builder.withComponents component registry componentVersion kubeVersion).withMappings
        (registry.mappings ++ [kubeMapping component componentVersion kubeVersion])) := by
  unfold registerComponents
  rw [componentParsed, kubeParsed]
  exact map_withComponents different free

/-- Components that could be registered are two, and the second one follows the first. -/
theorem exists_of_registerComponents {component : String} {result : Registry}
    (done : builder.registerComponents component registry = .ok result) :
    ∃ componentVersion kubeVersion, component ≠ kubeComponent ∧
      result =
        (builder.withComponents component registry componentVersion kubeVersion).withMappings
          (registry.mappings ++ [kubeMapping component componentVersion kubeVersion]) := by
  unfold registerComponents at done
  split at done
  · cases done
  next componentVersion _ =>
    split at done
    · cases done
    next kubeVersion _ =>
      let both := builder.withComponents component registry componentVersion kubeVersion
      obtain ⟨⟨different, _⟩, made⟩ := (@Registry.map_eq_ok_iff both result
        (kubeMapping component componentVersion kubeVersion)).1 done
      rw [withComponents_mappings] at made
      exact ⟨componentVersion, kubeVersion, different, made⟩

theorem emulationRequests_of_registerComponents {component : String} {result : Registry}
    (done : builder.registerComponents component registry = .ok result) :
    result.emulationRequests = registry.emulationRequests := by
  obtain ⟨componentVersion, kubeVersion, _, rfl⟩ := exists_of_registerComponents done
  rw [withComponents_eq]
  rfl

/-- A registry is settled once all is registered and all requests are made. -/
theorem settledRegistry_eq_ok_iff :
    builder.settledRegistry options = .ok registry ↔
      ∃ registered, builder.registerComponents options.componentName
          (builder.registry.getD .empty) = .ok registered ∧
        if builder.skipsSet = true then
          registry = requestGates options (requestEmulation options registered)
        else
          (requestGates options (requestEmulation options registered)).set = (.ok (), registry) := by
  unfold settledRegistry
  cases declared : builder.registerComponents options.componentName
      (builder.registry.getD .empty) with
  | error error => simp [declared]
  | ok registered =>
      simp only [declared, Except.ok.injEq, exists_eq_left']
      generalize requestGates options (requestEmulation options registered) = requested
      cases builder.skipsSet with
      | true => simp [eq_comm]
      | false =>
          simp only [Bool.false_eq_true, if_false]
          obtain ⟨outcome, result⟩ := requested.set
          cases outcome <;> simp

/-- The options make requests for their own component only, and they change nothing else. -/
structure RequestsOf (options : Options) (registry result : Registry) : Prop where
  components : result.components = registry.components
  mappings : result.mappings = registry.mappings
  applied : result.applied = registry.applied
  emulation : ∀ name, name ≠ options.componentName →
    result.emulationRequests.get? name = registry.emulationRequests.get? name
  gates : ∀ name, name ≠ options.componentName →
    result.gateRequests.get? name = registry.gateRequests.get? name

theorem requestsOf_options (options : Options) (registry : Registry) :
    RequestsOf options registry (requestGates options (requestEmulation options registry)) := by
  have emulating : RequestsOf options registry (requestEmulation options registry) := by
    unfold requestEmulation
    split
    next version parsed =>
      refine ⟨rfl, rfl, rfl, fun name other => ?_, fun _ _ => rfl⟩
      rw [Registry.requestEmulation, Dict.get?_insert, if_neg other]
    · exact ⟨rfl, rfl, rfl, fun _ _ => rfl, fun _ _ => rfl⟩
  unfold requestGates
  split
  · exact emulating
  · refine ⟨emulating.components, emulating.mappings, emulating.applied, emulating.emulation,
      fun name other => ?_⟩
    rw [Registry.requestGates, Dict.get?_insert, if_neg other, emulating.gates name other]

theorem emulationRequests_requestGates (options : Options) (registry : Registry) :
    (requestGates options registry).emulationRequests = registry.emulationRequests := by
  unfold requestGates
  split
  · rfl
  · rfl

/-- The request of the options comes to those that were there before. -/
theorem emulationRequests_of_settledRegistry {written : String}
    (settled : builder.settledRegistry options = .ok registry)
    (asked : options.emulatedVersion = some written) :
    registry.emulationRequests =
      match Version.parse written with
      | .ok version => (builder.registry.getD .empty).emulationRequests.insert
          options.componentName version.majorMinor
      | .error _ => (builder.registry.getD .empty).emulationRequests := by
  obtain ⟨registered, declared, effect⟩ := settledRegistry_eq_ok_iff.1 settled
  have requested : registry.emulationRequests =
      (requestGates options (requestEmulation options registered)).emulationRequests := by
    split at effect
    · rw [effect]
    · rw [← Registry.emulationRequests_set (requestGates options _), effect]
  rw [requested, emulationRequests_requestGates, requestEmulation, asked, Option.map_some,
    ← emulationRequests_of_registerComponents declared]
  cases Version.parse written <;> rfl

end Builder

end ResourceApi
