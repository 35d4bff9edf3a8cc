/-
This file says what the gate of a component knows after a build, if its specifications were given to
the builder in several calls. Of a feature that more than one call names, only the last call counts.
-/

import ResourceApi.Proofs.Builder.Joining
import ResourceApi.Proofs.Builder.Preparation
import ResourceApi.Proofs.Builder.Settlement
import ResourceApi.Proofs.FeatureGate.Accumulation
import ResourceApi.Proofs.Registry.Settlement

namespace ResourceApi.Builder

variable {State : Type} {builder : Builder State} {options : Options} {registry : Registry}
  {server : Server State}

/-- The specifications are given to the builder one after the other. -/
def withAllFeatures (builder : Builder State) (given : List FeatureSpecs) : Builder State :=
  given.foldl withFeatures builder

/-- The builder's own name goes before that of the options. -/
def ownName (builder : Builder State) : String :=
  if builder.component = "" then (builder.options.map Options.componentName).getD ""
  else builder.component

theorem withAllFeatures_eq (builder : Builder State) (given : List FeatureSpecs) :
    builder.withAllFeatures given = { builder with
      features := given.foldl (fun known features => known.insertAll features.entries)
        builder.features } := by
  induction given generalizing builder with
  | nil => rfl
  | cons features rest inductionHypothesis =>
      exact inductionHypothesis (builder.withFeatures features)

theorem settledOptions_componentName (builder : Builder State) (group : String) :
    (builder.settledOptions group).componentName = builder.ownName := by
  unfold settledOptions ownName
  cases builder.options <;> rfl

/-- A server that was built has the registry that the builder has settled. -/
theorem exists_prepared_of_build {state : State} (built : (builder.build state).1 = .ok server) :
    ∃ group options, builder.Prepared group options server.registry := by
  rw [build] at built
  split at built
  · cases built
  next options registry prepared =>
    obtain ⟨group, prepared⟩ := prepare_eq_ok_iff.1 prepared
    obtain rfl := assemble_registry built
    exact ⟨group, options, prepared⟩

/-- A new component has a gate that knows the specifications of the builder. -/
theorem exists_component_of_settledRegistry
    (settled : builder.settledRegistry options = .ok registry)
    (unregistered : (builder.registry.getD .empty).isRegistered options.componentName = false) :
    ∃ component, registry.components.get? options.componentName = some component ∧
      component.gate.known = (FeatureGate.empty.addVersioned builder.features).known := by
  obtain ⟨registered, declared, effect⟩ := settledRegistry_eq_ok_iff.1 settled
  obtain ⟨componentVersion, kubeVersion, different, rfl⟩ := exists_of_registerComponents declared
  have unknown := Dict.contains_eq_false_iff.1 unregistered
  have own := @get?_withComponents _ builder (builder.registry.getD .empty) componentVersion
    kubeVersion _ different options.componentName
  rw [if_pos rfl, unknown, Option.getD_none] at own
  let kept := requestGates options (requestEmulation options
    ((builder.withComponents options.componentName (builder.registry.getD .empty) componentVersion
      kubeVersion).withMappings ((builder.registry.getD .empty).mappings ++
        [kubeMapping options.componentName componentVersion kubeVersion])))
  have found : kept.components.get? options.componentName =
      some (builder.ownComponent componentVersion) := by
    rw [(requestsOf_options options _).components]
    exact own
  split at effect
  · rw [effect]
    exact ⟨_, found, rfl⟩
  · exact Registry.exists_known_of_set effect found

/-- The gate of a built component knows of each feature what was given last. -/
theorem built_gate_knows_last_specs {given : List FeatureSpecs} {state : State}
    (fresh : builder.features = .empty)
    (unregistered : (builder.registry.getD .empty).isRegistered builder.ownName = false)
    (built : ((builder.withAllFeatures given).build state).1 = .ok server) :
    ∃ gate, server.registry.gate? builder.ownName = some gate ∧
      let all : FeatureGate := { FeatureGate.accumulated given with overrides := gate.overrides }
      (∀ feature, gate.known.contains feature = all.known.contains feature) ∧
      (∀ feature, FeatureGate.Arranges (FeatureGate.lastGiven given feature)
        (FeatureGate.specsOf gate.known feature)) ∧
      (∀ feature emulation,
        let covered := FeatureGate.Covered emulation (FeatureGate.lastGiven given feature)
          (FeatureGate.allGiven given feature)
        (({ gate with emulation } : FeatureGate).currentSpec feature =
          ({ all with emulation } : FeatureGate).currentSpec feature ↔ covered) ∧
        (covered → ({ gate with emulation } : FeatureGate).isEnabled feature =
          ({ all with emulation } : FeatureGate).isEnabled feature)) ∧
      ∀ feature, (given.Pairwise fun first second =>
          ¬ (first.contains feature = true ∧ second.contains feature = true)) →
        ∀ emulation, ({ gate with emulation } : FeatureGate).isEnabled feature =
          ({ all with emulation } : FeatureGate).isEnabled feature := by
  obtain ⟨group, options, prepared⟩ := exists_prepared_of_build built
  have named : options.componentName = builder.ownName := by
    rw [prepared.settled, settledOptions_componentName, withAllFeatures_eq]
    rfl
  have alone : (((builder.withAllFeatures given).registry.getD .empty).isRegistered
      options.componentName) = false := by
    rw [withAllFeatures_eq, named]
    exact unregistered
  obtain ⟨component, found, known⟩ := exists_component_of_settledRegistry prepared.declared alone
  have features : (builder.withAllFeatures given).features = FeatureGate.replaced given := by
    rw [withAllFeatures_eq, fresh]
    rfl
  rw [features] at known
  let gate := component.gate
  let all : FeatureGate := { FeatureGate.accumulated given with overrides := gate.overrides }
  have alike (feature : String) (emulation : Option Version) :=
    @FeatureGate.currentSpec_replaced_iff { gate with emulation } { all with emulation } given
      known rfl rfl feature
  have answers (feature : String) (emulation : Option Version)
      (covered : FeatureGate.Covered emulation (FeatureGate.lastGiven given feature)
        (FeatureGate.allGiven given feature)) :
      ({ gate with emulation } : FeatureGate).isEnabled feature =
        ({ all with emulation } : FeatureGate).isEnabled feature :=
    FeatureGate.isEnabled_congr ((alike feature emulation).2 covered) rfl
  refine ⟨gate, ?_, ?_, ?_, fun feature emulation =>
    ⟨alike feature emulation, answers feature emulation⟩, ?_⟩
  · rw [Registry.gate?, ← named, found]
    rfl
  · intro feature
    exact known ▸ FeatureGate.contains_replaced feature given
  · intro feature
    exact known ▸ FeatureGate.arranges_replaced feature given
  · intro feature once emulation
    refine answers feature emulation fun spec inside reached => ?_
    rw [FeatureGate.allGiven_eq_lastGiven once] at inside
    exact ⟨spec, inside, reached, Nat.le_refl _⟩

section Sample

def cachingFromFirst : FeatureSpec := ⟨⟨1, 0, 0⟩, true, .alpha, false⟩

def cachingFromSecond : FeatureSpec := ⟨⟨1, 2, 0⟩, false, .deprecated, false⟩

/-- Each call gives one specification of the feature. -/
def cachingTwice : List FeatureSpecs :=
  [.singleton "caching" [cachingFromFirst], .singleton "caching" [cachingFromSecond]]

def cachingBuilder : Builder Unit where
  component := "foo"
  groupVersions := [⟨"foo.example.com", "v1"⟩]

/-- The specification of the first call would be in force, and it is lost. -/
theorem earlier_specs_lost :
    ∃ server gate, ((cachingBuilder.withAllFeatures cachingTwice).build ()).1 = .ok server ∧
      server.registry.gate? "foo" = some gate ∧ gate.known.contains "caching" = true ∧
      (gate.withEmulation ⟨1, 1, 0⟩).currentSpec "caching" ≠
        ((FeatureGate.accumulated cachingTwice).withEmulation ⟨1, 1, 0⟩).currentSpec "caching" := by
  obtain ⟨server, built⟩ : ∃ server,
      ((cachingBuilder.withAllFeatures cachingTwice).build ()).1 = .ok server := ⟨_, rfl⟩
  obtain ⟨gate, found, known, _, alike, _⟩ := built_gate_knows_last_specs rfl rfl built
  have collected : (FeatureGate.accumulated cachingTwice).known.contains "caching" = true := by
    decide +kernel
  refine ⟨server, gate, built, found, (known "caching").trans collected, fun same => ?_⟩
  obtain ⟨other, inside, reached, _⟩ := (alike "caching" (some ⟨1, 1, 0⟩)).1.1 same
    cachingFromFirst (by decide +kernel) (by decide +kernel)
  have unreached : ∀ spec ∈ FeatureGate.lastGiven cachingTwice "caching",
      ¬ FeatureGate.Reached (some ⟨1, 1, 0⟩) spec := by decide +kernel
  exact unreached other inside reached

end Sample

end ResourceApi.Builder
