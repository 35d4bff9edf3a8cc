/-
This file follows a builder that is given a registry. What is registered there goes before the
settings of the builder, but the mapping onto the kube component is made from the settings. So kube
stays in its window only as far as the two agree.
-/

import ResourceApi.Proofs.Builder.Preparation
import ResourceApi.Proofs.Builder.Settlement
import ResourceApi.Proofs.Registry.Mapping
import ResourceApi.Proofs.Version.Mapping

namespace ResourceApi.Builder

variable {State : Type} {builder : Builder State} {options : Options} {registry : Registry}
  {injected : List Declaration} {componentVersion kubeVersion : Version}

/-- The settings of the builder have kube emulate this version. -/
def kubeWanted (componentVersion kubeVersion emulation : Version) : Version :=
  kubeVersion.lowered (emulation.minorsBelow componentVersion)

theorem kubeMapping_move (component : String) (source target : Component) :
    ((kubeMapping component componentVersion kubeVersion).move source target).version.emulation =
      if source.version.emulation.major = componentVersion.major then
        kubeWanted componentVersion kubeVersion source.version.emulation
      else target.version.emulation := by
  rw [EmulationMapping.move_emulation]
  show (dependentVersionMapping componentVersion.majorMinor kubeVersion.majorMinor
    source.version.emulation).elim target.version.emulation Version.majorMinor = _
  split
  next same =>
    obtain ⟨mapped, image, lowered⟩ :=
      @majorMinor_dependentVersionMapping kubeVersion.majorMinor componentVersion.majorMinor _ same
    rw [image, Option.elim_some, lowered, kubeWanted, Version.minorsBelow, if_pos same]
    rfl
  next other =>
    rw [@dependentVersionMapping_of_major_ne componentVersion.majorMinor _ _ other,
      Option.elim_none]

/-- These are the declarations that a builder makes to every registry. -/
def declarations (builder : Builder State) (component : String)
    (componentVersion kubeVersion : Version) : List Declaration :=
  let own : Candidate := ⟨builder.ownComponent componentVersion, .new _, .addVersioned _ .empty⟩
  [.registerOrKeep component own,
    .registerOrKeep kubeComponent ⟨kubeDefault kubeVersion, .new _, .empty⟩,
    (kubeMapping component componentVersion kubeVersion).declaration]

section Declared

variable {component : String} (different : component ≠ kubeComponent)
  (free : ∀ existing ∈ (Registry.declared injected).mappings, existing.target ≠ kubeComponent)

include different free

theorem declared_append_declarations :
    Registry.declared (injected ++ builder.declarations component componentVersion kubeVersion) =
      (builder.withComponents component (Registry.declared injected) componentVersion
          kubeVersion).withMappings ((Registry.declared injected).mappings ++
        [kubeMapping component componentVersion kubeVersion]) := by
  have accepted := @map_withComponents _ builder _ componentVersion kubeVersion _ different free
  rw [Registry.declared, List.foldl_append]
  show Registry.declare _ (kubeMapping component componentVersion kubeVersion).declaration = _
  exact Registry.declare_declaration accepted

/-- The builder requests nothing by its declarations. -/
theorem requests_declared_append :
    let whole := injected ++ builder.declarations component componentVersion kubeVersion
    (Registry.declared whole).emulationRequests = (Registry.declared injected).emulationRequests ∧
      (Registry.declared whole).gateRequests = (Registry.declared injected).gateRequests := by
  intro whole
  rw [declared_append_declarations different free, withComponents_eq]
  exact ⟨rfl, rfl⟩

end Declared

/-- Nothing is requested in the registry, and the options make no request. -/
structure Unasked (options : Options) (registry : Registry) : Prop where
  noVersions : registry.emulationRequests = .empty
  noGates : registry.gateRequests = .empty
  noVersion : options.emulatedVersion = none
  noFeatures : options.featureGates.isEmpty = true

theorem Unasked.requests_eq (unasked : Unasked options registry) (other : Registry) :
    requestGates options (requestEmulation options other) = other := by
  rw [requestEmulation, unasked.noVersion, Option.map_none, requestGates,
    if_pos unasked.noFeatures]

section Settled

variable (given : builder.registry = some (Registry.declared injected))
  (free : ∀ existing ∈ (Registry.declared injected).mappings, existing.target ≠ kubeComponent)
  (unasked : Unasked options (Registry.declared injected)) (takesEffect : builder.skipsSet = false)
  (componentParsed : Version.parse (builder.componentVersion.getD defaultComponentVersion) =
    .ok componentVersion)
  (kubeParsed : Version.parse (builder.kubeVersion.getD defaultKubeVersion) = .ok kubeVersion)
  (different : options.componentName ≠ kubeComponent)

include given free unasked takesEffect componentParsed kubeParsed different

/-- The settings take effect, and kube emulates what the builder wants of it. -/
theorem exists_settledRegistry_of_injected {own kubeBefore : Component}
    (ownIs : own = ((Registry.declared injected).components.get? options.componentName).getD
      (builder.ownComponent componentVersion))
    (kubeIs : kubeBefore = ((Registry.declared injected).components.get? kubeComponent).getD
      (kubeDefault kubeVersion)) :
    ∃ settled component kube, builder.settledRegistry options = .ok settled ∧
      settled.components.get? options.componentName = some component ∧ component.Sound ∧
      component.version.binary = own.version.binary ∧
      settled.components.get? kubeComponent = some kube ∧ kube.Sound ∧
      kube.version.binary = kubeBefore.version.binary ∧
      kube.version.emulation =
        if component.version.emulation.major = componentVersion.major then
          kubeWanted componentVersion kubeVersion component.version.emulation
        else kubeBefore.version.emulation := by
  let whole := injected ++ builder.declarations options.componentName componentVersion kubeVersion
  let mapping := kubeMapping options.componentName componentVersion kubeVersion
  have reflects := Registry.reflects_declared whole
  have joined : Registry.declared whole = _ := declared_append_declarations different free
  obtain ⟨versions, gates⟩ := @requests_declared_append _ builder _ componentVersion kubeVersion _
    different free
  have ownKnown : (Registry.declared whole).components.get? mapping.source = some own := by
    rw [joined, ownIs]
    exact (get?_withComponents different _).trans (if_pos rfl)
  have kubeKnown : (Registry.declared whole).components.get? mapping.target = some kubeBefore := by
    rw [joined, kubeIs]
    exact (get?_withComponents different _).trans ((if_neg different.symm).trans (if_pos rfl))
  -- The mapping onto kube comes last, so its source has reached its final version by then.
  have placed : (Registry.declared whole).mappings = _ ++ [mapping] :=
    congrArg Registry.mappings joined
  obtain ⟨settled, source, done, kept, moved⟩ :=
    (Registry.wellWired_declared whole).exists_set_of_unasked reflects.notApplied
      (versions.trans unasked.noVersions) (gates.trans unasked.noGates) placed kubeKnown
  have settles := Registry.set_ok reflects.notApplied done
  have registered : builder.registerComponents options.componentName
      (builder.registry.getD .empty) = .ok (Registry.declared whole) := by
    rw [given, joined]
    exact registerComponents_eq_ok componentParsed kubeParsed different free
  have settledRegistry : builder.settledRegistry options = .ok settled := by
    refine settledRegistry_eq_ok_iff.2 ⟨_, registered, ?_⟩
    rw [takesEffect, if_neg Bool.false_ne_true, unasked.requests_eq]
    exact done
  exact ⟨settled, _, _, settledRegistry, kept, (settles.sound reflects kept).1,
    settles.binary ownKnown kept, moved, (settles.sound reflects moved).1,
    settles.binary kubeKnown moved, kubeMapping_move _ source kubeBefore⟩

end Settled

section Window

/-- A component has the version that is registered, or else that of the settings. -/
theorem binary_getD (registry : Registry) (name : String) (version : Version) {default : Component}
    (new : default.version.binary = version) :
    ((registry.components.get? name).getD default).version.binary =
      (registry.version? name).elim version EffectiveVersion.binary := by
  rw [Registry.version?]
  cases registry.components.get? name with
  | none => exact new
  | some component => rfl

/-- Before the settings take effect, kube is in its window. -/
theorem kube_inWindow (valid : (Registry.declared injected).problems = []) :
    (((Registry.declared injected).components.get? kubeComponent).getD
      (kubeDefault kubeVersion)).version.InWindow := by
  cases known : (Registry.declared injected).components.get? kubeComponent with
  | none => exact EffectiveVersion.inWindow_new kubeVersion
  | some kube =>
      have sound := (Registry.reflects_declared injected).sound kubeComponent kube known
      exact Registry.inWindow_of_valid valid known sound.plain

/-- Kube is as far below its own version as the component below its. -/
theorem kubeWanted_inWindow {component kube : EffectiveVersion} (window : component.InWindow)
    (ownSame : component.highestEmulation = componentVersion.majorMinor)
    (kubeSame : kube.highestEmulation = kubeVersion.majorMinor) :
    (kube.withEmulation
      (kubeWanted componentVersion kubeVersion component.emulation)).InWindow := by
  have few : component.emulation.minorsBelow componentVersion ≤ 3 := by
    have notBelow := window.notBelow
    have minor : component.binary.minor = componentVersion.minor := by
      show component.highestEmulation.minor = componentVersion.majorMinor.minor
      rw [ownSame]
    rw [minor] at notBelow
    rw [Version.minorsBelow]
    split
    · omega
    · omega
  apply EffectiveVersion.inWindow_of_lowered few
  exact congrArg (fun version : Version => version.lowered _) kubeSame.symm

/-- Kube leaves its window only by the version that the settings want. -/
theorem kube_window_iff {component before kube : EffectiveVersion} (window : before.InWindow)
    (plain : kube.emulation.majorMinor = kube.emulation) (binary : kube.binary = before.binary)
    (emulates : kube.emulation = if component.emulation.major = componentVersion.major then
        kubeWanted componentVersion kubeVersion component.emulation
      else before.emulation) :
    (kube.highestEmulation < kube.emulation ↔
      component.emulation.major = componentVersion.major ∧
        kube.highestEmulation < kubeWanted componentVersion kubeVersion component.emulation) ∧
    (¬ kube.InWindow ↔
      component.emulation.major = componentVersion.major ∧
        ¬ (kube.withEmulation
          (kubeWanted componentVersion kubeVersion component.emulation)).InWindow) := by
  by_cases same : component.emulation.major = componentVersion.major
  · rw [if_pos same] at emulates
    have alike : kube.InWindow ↔ (kube.withEmulation
        (kubeWanted componentVersion kubeVersion component.emulation)).InWindow :=
      ⟨fun inside => inside.of_eq rfl emulates.symm, fun inside => inside.of_eq rfl emulates⟩
    rw [← alike, ← emulates]
    exact ⟨(and_iff_right same).symm, (and_iff_right same).symm⟩
  · rw [if_neg same] at emulates
    have stays : kube.InWindow := window.of_eq binary emulates
    exact ⟨iff_of_false (stays.not_above plain) fun moved => same moved.1,
      iff_of_false (not_not_intro stays) fun moved => same moved.1⟩

end Window

/-- Kube leaves its window exactly where the settings of the builder map it there. -/
theorem kube_window_follows_settings
    (given : builder.registry = some (Registry.declared injected))
    (valid : (Registry.declared injected).problems = [])
    (free : ∀ existing ∈ (Registry.declared injected).mappings, existing.target ≠ kubeComponent)
    (unasked : Unasked options (Registry.declared injected))
    (takesEffect : builder.skipsSet = false)
    (componentParsed : Version.parse (builder.componentVersion.getD defaultComponentVersion) =
      .ok componentVersion)
    (kubeParsed : Version.parse (builder.kubeVersion.getD defaultKubeVersion) = .ok kubeVersion)
    (different : options.componentName ≠ kubeComponent) :
    ∃ settled component kube, builder.settledRegistry options = .ok settled ∧
      settled.version? options.componentName = some component ∧
      component.binary = ((Registry.declared injected).version? options.componentName).elim
        componentVersion EffectiveVersion.binary ∧
      settled.version? kubeComponent = some kube ∧
      kube.binary = ((Registry.declared injected).version? kubeComponent).elim
        kubeVersion EffectiveVersion.binary ∧
      (kube.highestEmulation < kube.emulation ↔
        component.emulation.major = componentVersion.major ∧
          kube.highestEmulation <
            kubeWanted componentVersion kubeVersion component.emulation) ∧
      (settled.ReportsRange kubeComponent ↔
        component.emulation.major = componentVersion.major ∧
          ¬ (kube.withEmulation
            (kubeWanted componentVersion kubeVersion component.emulation)).InWindow) ∧
      (component.highestEmulation = componentVersion.majorMinor →
        kube.highestEmulation = kubeVersion.majorMinor →
        settled.ReportsRange kubeComponent → settled.ReportsRange options.componentName) ∧
      ∀ group, builder.groupName = .ok group → options = builder.settledOptions group →
        builder.groupVersions ≠ [] → settled.ReportsRange kubeComponent →
        ∀ state, ∃ messages,
          (VersionError.emulationOutOfRange kubeComponent kube.emulation kube.lowestEmulation
            kube.highestEmulation).message ∈ messages ∧
          builder.build state = (.error (.invalid messages), state) := by
  obtain ⟨settled, component, kube, settles, found, sound, binary, kubeFound, kubeSound,
      kubeBinary, emulates⟩ :=
    exists_settledRegistry_of_injected given free unasked takesEffect componentParsed kubeParsed
      different rfl rfl
  have reported := Registry.reportsRange_iff_of_plain found sound.plain
  have kubeReported := Registry.reportsRange_iff_of_plain kubeFound kubeSound.plain
  obtain ⟨above, outside⟩ :=
    kube_window_iff (@kube_inWindow _ kubeVersion valid) kubeSound.plain kubeBinary emulates
  refine ⟨settled, component.version, kube.version, settles, ?_, ?_, ?_, ?_, above, ?_, ?_, ?_⟩
  · rw [Registry.version?, found, Option.map_some]
  · exact binary.trans (binary_getD _ _ componentVersion rfl)
  · rw [Registry.version?, kubeFound, Option.map_some]
  · exact kubeBinary.trans (binary_getD _ _ kubeVersion rfl)
  · rw [kubeReported, outside]
  · intro ownSame kubeSame
    rw [kubeReported, outside, reported]
    rintro ⟨_, moved⟩ window
    exact moved (kubeWanted_inWindow window ownSame kubeSame)
  · intro group grouped prepared listed outOfRange state
    have fault := (kube.version.problem?_cases kubeComponent).resolve_left fun none =>
      kubeReported.1 outOfRange ((EffectiveVersion.problem?_eq_none_iff kubeSound.plain).1 none)
    have problem := Registry.emulationOutOfRange_mem_problems_iff.2 ⟨kube, kubeFound, fault⟩
    rw [prepared] at settles
    apply build_of_reported grouped listed settles
    exact List.mem_append_right _ (List.mem_map_of_mem problem)

section Sample

/-- The registry that this builder is given has a kube of four minors before the default. -/
def overEarlierKube : Builder Unit where
  component := "foo"
  groupVersions := [⟨"foo.example.com", "v1"⟩]
  registry := some <| .declared
    [.register kubeComponent ⟨kubeDefault ⟨1, 30, 0⟩, .new _, .empty⟩]

/-- Kube would emulate its default version, and this is above the registered one. -/
theorem earlier_kube_refused :
    ∃ settled kube, overEarlierKube.settledRegistry
        (overEarlierKube.settledOptions "foo.example.com") = .ok settled ∧
      settled.version? kubeComponent = some kube ∧ kube.binary = ⟨1, 30, 0⟩ ∧
      kube.highestEmulation < kube.emulation ∧
      ∃ messages, overEarlierKube.build () = (.error (.invalid messages), ()) := by
  obtain ⟨settled, component, kube, settles, found, _, kubeFound, kubeBinary, above, reported, _,
      refused⟩ := @kube_window_follows_settings _ overEarlierKube
        (overEarlierKube.settledOptions "foo.example.com") _ ⟨1, 2, 0⟩ ⟨1, 34, 0⟩ rfl
        (by decide +kernel) nofun ⟨rfl, rfl, rfl, rfl⟩ rfl rfl rfl (by decide)
  have binary : kube.binary = ⟨1, 30, 0⟩ := kubeBinary
  obtain ⟨computed, done⟩ : ∃ registry, overEarlierKube.settledRegistry
      (overEarlierKube.settledOptions "foo.example.com") = .ok registry ∧
        (registry.version? "foo").map EffectiveVersion.emulation = some ⟨1, 2, 0⟩ := ⟨_, rfl, rfl⟩
  obtain rfl := Except.ok.inj (done.1.symm.trans settles)
  have emulated : component.emulation = ⟨1, 2, 0⟩ := by
    have own := done.2
    rw [show computed.version? "foo" = some component from found] at own
    exact Option.some.inj own
  have outside : computed.ReportsRange kubeComponent := by
    apply reported.2
    rw [emulated]
    refine ⟨rfl, fun window => ?_⟩
    have notAbove := window.notAbove
    rw [EffectiveVersion.withEmulation, binary] at notAbove
    exact absurd notAbove (by decide)
  obtain ⟨messages, _, built⟩ := refused _ rfl rfl (List.cons_ne_nil _ _) outside ()
  refine ⟨computed, kube, settles, kubeFound, binary, ?_, messages, built⟩
  apply above.2
  rw [emulated, EffectiveVersion.highestEmulation, binary]
  exact ⟨rfl, by decide⟩

end Sample

end ResourceApi.Builder
