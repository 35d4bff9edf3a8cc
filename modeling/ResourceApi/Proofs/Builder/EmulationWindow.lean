/-
This file shows that a component takes the one it depends on along when it emulates an older
version: the second goes back by as many minors as the first, so it stays in its window as well.
-/

import ResourceApi.Proofs.Builder.Settlement
import ResourceApi.Proofs.Registry.Mapping
import ResourceApi.Proofs.Version.Mapping

namespace ResourceApi.Builder

variable {State : Type} {builder : Builder State} {options : Options}
  {componentVersion kubeVersion : Version}

/-- A new registry with all that the builder and its options declare. -/
def declaredRegistry (builder : Builder State) (options : Options)
    (componentVersion kubeVersion : Version) : Registry :=
  requestGates options <| requestEmulation options <|
    (builder.withComponents options.componentName .empty componentVersion kubeVersion).withMappings
      [kubeMapping options.componentName componentVersion kubeVersion]

/-- The component emulates its own version where no other can be read. -/
def wantedEmulation (options : Options) (own : Version) : Version :=
  match options.emulatedVersion.map Version.parse with
  | some (.ok version) => version.majorMinor
  | _ => own.majorMinor

theorem majorMinor_wantedEmulation (options : Options) (own : Version) :
    (wantedEmulation options own).majorMinor = wantedEmulation options own := by
  unfold wantedEmulation
  split <;> rfl

section Declared

theorem declaredRegistry_mappings :
    (builder.declaredRegistry options componentVersion kubeVersion).mappings =
      [kubeMapping options.componentName componentVersion kubeVersion] :=
  (requestsOf_options options _).mappings

theorem declaredRegistry_applied :
    (builder.declaredRegistry options componentVersion kubeVersion).applied = false := by
  rw [declaredRegistry, (requestsOf_options options _).applied, withComponents_eq]
  rfl

/-- Nothing is requested of other components. -/
theorem declaredRegistry_noRequest {name : String} (other : name ≠ options.componentName) :
    let registry := builder.declaredRegistry options componentVersion kubeVersion
    registry.emulationRequests.contains name = false ∧
      registry.gateRequests.contains name = false := by
  refine ⟨Dict.contains_eq_false_iff.2 ?_, Dict.contains_eq_false_iff.2 ?_⟩
  · rw [declaredRegistry, (requestsOf_options options _).emulation name other, withComponents_eq]
    rfl
  · rw [declaredRegistry, (requestsOf_options options _).gates name other, withComponents_eq]
    rfl

/-- A version is requested if one can be read from the options. -/
theorem declaredRegistry_request :
    (builder.declaredRegistry options componentVersion kubeVersion).emulationRequests.get?
      options.componentName =
        match options.emulatedVersion.map Version.parse with
        | some (.ok version) => some version.majorMinor
        | _ => none := by
  let both := builder.withComponents options.componentName .empty componentVersion kubeVersion
  have unasked : both.emulationRequests.get? options.componentName = none := by
    rw [show both = { Registry.empty with components := both.components } from
      withComponents_eq options.componentName]
    rfl
  rw [declaredRegistry, emulationRequests_requestGates, requestEmulation]
  cases options.emulatedVersion.map Version.parse with
  | none => exact unasked
  | some outcome =>
      cases outcome with
      | error cause => exact unasked
      | ok version => exact (Dict.get?_insert _ _ _ _).trans (if_pos rfl)

theorem declaredRegistry_requested :
    ((builder.declaredRegistry options componentVersion kubeVersion).requested
      options.componentName (builder.ownComponent componentVersion)).version.emulation =
        wantedEmulation options componentVersion := by
  rw [Registry.requested_emulation_eq, declaredRegistry_request, wantedEmulation]
  cases options.emulatedVersion.map Version.parse with
  | none => rfl
  | some outcome => cases outcome <;> rfl

variable (different : options.componentName ≠ kubeComponent)

include different

theorem declaredRegistry_own :
    (builder.declaredRegistry options componentVersion kubeVersion).components.get?
      options.componentName = some (builder.ownComponent componentVersion) := by
  rw [declaredRegistry, (requestsOf_options options _).components]
  exact (get?_withComponents different _).trans (if_pos rfl)

theorem declaredRegistry_kube :
    (builder.declaredRegistry options componentVersion kubeVersion).components.get?
      kubeComponent = some (kubeDefault kubeVersion) := by
  rw [declaredRegistry, (requestsOf_options options _).components]
  exact (get?_withComponents different _).trans ((if_neg different.symm).trans (if_pos rfl))

theorem declaredRegistry_wellWired :
    (builder.declaredRegistry options componentVersion kubeVersion).WellWired := by
  have alone := @declaredRegistry_mappings _ builder options componentVersion kubeVersion
  have own := @declaredRegistry_own _ builder options componentVersion kubeVersion different
  have kube := @declaredRegistry_kube _ builder options componentVersion kubeVersion different
  refine ⟨?_, ?_, ?_, alone ▸ List.pairwise_singleton _ _⟩
  · exact alone ▸ List.forall_mem_singleton.2 different
  · exact alone ▸ List.forall_mem_singleton.2 (Dict.contains_eq_true_iff.2 ⟨_, own⟩)
  · exact alone ▸ List.forall_mem_singleton.2 (Dict.contains_eq_true_iff.2 ⟨_, kube⟩)

/-- The settings of such a registry take effect for both components. -/
theorem exists_set_declaredRegistry :
    ∃ registry component kube,
      (builder.declaredRegistry options componentVersion kubeVersion).set = (.ok (), registry) ∧
      registry.components.get? options.componentName = some component ∧
      component.version.binary = componentVersion ∧
      component.version.emulation = wantedEmulation options componentVersion ∧
      registry.components.get? kubeComponent = some kube ∧
      kube.version.binary = kubeVersion ∧
      kube.version.emulation =
        kubeVersion.lowered (component.version.emulation.minorsBelow componentVersion) := by
  let declared := builder.declaredRegistry options componentVersion kubeVersion
  let mapping := kubeMapping options.componentName componentVersion kubeVersion
  have known (name : String) (wanted : declared.emulationRequests.contains name = true ∨
      declared.gateRequests.contains name = true) : declared.isRegistered name = true := by
    by_cases own : name = options.componentName
    · exact own ▸ Dict.contains_eq_true_iff.2 ⟨_, declaredRegistry_own different⟩
    · obtain ⟨noVersion, noGates⟩ := @declaredRegistry_noRequest _ builder options
        componentVersion kubeVersion _ own
      rcases wanted with version | gates
      · exact absurd (version.symm.trans noVersion) (by decide)
      · exact absurd (gates.symm.trans noGates) (by decide)
  have free : declared.emulationRequests.contains kubeComponent = false :=
    (declaredRegistry_noRequest different.symm).1
  have unmoved : (declared.requested kubeComponent (kubeDefault kubeVersion)).version =
      .new kubeVersion := Registry.requested_version_of_free free
  obtain ⟨settled, done, own, kube⟩ := (declaredRegistry_wellWired different).exists_set_of_single
    declaredRegistry_applied known declaredRegistry_mappings free (declaredRegistry_own different)
    (declaredRegistry_kube different)
  refine ⟨settled, _, _, done, own, Registry.requested_binary, declaredRegistry_requested, kube,
    ?_, ?_⟩
  · refine (mapping.move_binary _ _).trans ?_
    exact congrArg EffectiveVersion.binary unmoved
  · refine (mapping.move_emulation _ _).trans ?_
    rw [show mapping.target = kubeComponent from rfl, unmoved]
    exact emulation_dependentVersionMapping _ _ _

end Declared

/-- The kube component leaves its window only along with the component of the builder. -/
theorem kube_window_follows_component (own : builder.registry = none)
    (takesEffect : builder.skipsSet = false)
    (componentParsed : Version.parse (builder.componentVersion.getD defaultComponentVersion) =
      .ok componentVersion)
    (kubeParsed : Version.parse (builder.kubeVersion.getD defaultKubeVersion) = .ok kubeVersion)
    (different : options.componentName ≠ kubeComponent) :
    ∃ registry component kube, builder.settledRegistry options = .ok registry ∧
      registry.version? options.componentName = some component ∧
      component.binary = componentVersion ∧
      component.emulation = wantedEmulation options componentVersion ∧
      registry.version? kubeComponent = some kube ∧
      kube.binary = kubeVersion ∧
      (registry.ReportsRange kubeComponent → registry.ReportsRange options.componentName) ∧
      ∀ steps ≤ 3, component.emulation.major = component.binary.major →
        component.emulation.minor.toNat + steps = component.binary.minor.toNat →
        kube.emulation = kube.binary.lowered steps ∧ kube.InWindow ∧
          ¬ registry.ReportsRange kubeComponent := by
  obtain ⟨registry, component, kube, done, found, binary, wanted, kubeFound, kubeBinary, emulates⟩ :=
    @exists_set_declaredRegistry _ builder options componentVersion kubeVersion different
  have registered : builder.registerComponents options.componentName .empty = .ok _ :=
    registerComponents_eq_ok componentParsed kubeParsed different nofun
  have settled : builder.settledRegistry options = .ok registry := by
    refine settledRegistry_eq_ok_iff.2 ⟨_, by rw [own]; exact registered, ?_⟩
    rw [takesEffect, if_neg Bool.false_ne_true]
    exact done
  rw [← binary, ← kubeBinary] at emulates
  have plain : component.version.emulation.majorMinor = component.version.emulation := by
    rw [wanted, majorMinor_wantedEmulation]
  have kubePlain : kube.version.emulation.majorMinor = kube.version.emulation := by
    rw [emulates]
    rfl
  have reported := Registry.reportsRange_iff_of_plain found plain
  have kubeReported := Registry.reportsRange_iff_of_plain kubeFound kubePlain
  refine ⟨registry, component.version, kube.version, settled, by rw [Registry.version?, found]; rfl,
    binary, wanted, by rw [Registry.version?, kubeFound]; rfl, kubeBinary, ?_, ?_⟩
  · -- Other majors are not mapped, so it is enough to look at a component in its window.
    rw [reported, kubeReported]
    refine mt fun window => ?_
    have few : component.version.emulation.minorsBelow component.version.binary ≤ 3 := by
      have notBelow := window.notBelow
      rw [Version.minorsBelow, if_pos window.major]
      omega
    exact EffectiveVersion.inWindow_of_lowered few emulates
  · intro steps few major distance
    have below : component.version.emulation.minorsBelow component.version.binary = steps := by
      rw [Version.minorsBelow, if_pos major]
      omega
    rw [below] at emulates
    have window := EffectiveVersion.inWindow_of_lowered few emulates
    exact ⟨emulates, window, fun outside => kubeReported.1 outside window⟩

section Samples

/-- Both components are close to their first minor version. -/
def youngBuilder : Builder Unit where
  component := "foo"
  componentVersion := some "2.3"
  kubeVersion := some "v1.1.7"

def goingBack : Options :=
  { componentName := "foo", emulatedVersion := some "2.1" }

/-- The component goes back by two minors, and the kube component by one. -/
theorem kube_goes_back_to_first_minor :
    ∃ registry kube, youngBuilder.settledRegistry goingBack = .ok registry ∧
      registry.version? kubeComponent = some kube ∧ kube.emulation = ⟨1, 0, 0⟩ ∧
      ¬ registry.ReportsRange kubeComponent := by
  obtain ⟨registry, component, kube, settled, _, binary, wanted, kubeFound, kubeBinary, _,
      follows⟩ := @kube_window_follows_component _ youngBuilder goingBack ⟨2, 3, 0⟩ ⟨1, 1, 7⟩ rfl rfl
    rfl rfl (by decide)
  have emulated : component.emulation = ⟨2, 1, 0⟩ := wanted
  obtain ⟨lowered, _, unreported⟩ := follows 2 (by decide) (by rw [emulated, binary])
    (by rw [emulated, binary]; decide)
  refine ⟨registry, kube, settled, kubeFound, ?_, unreported⟩
  rw [lowered, kubeBinary]
  decide

end Samples

end ResourceApi.Builder
