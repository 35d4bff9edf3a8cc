/-
This file shows what becomes of a registry when its settings take effect. A registry that is valid
then has all that was requested of it in force, and a registry is valid exactly where its settings
agree.
-/

import ResourceApi.Proofs.Registry.Declaration
import ResourceApi.Proofs.Registry.Passes

namespace ResourceApi.Registry

/-- This is what the requests make of a component. -/
def requested (registry : Registry) (name : String) (component : Component) : Component :=
  let emulating := (registry.emulationRequests.get? name).elim component (emulate component)
  (registry.gateRequests.get? name).elim emulating (overrideGate emulating)

/-- This is how the settings of a registry take effect. -/
structure Settles (registry settled : Registry) : Prop where
  mappings : settled.mappings = registry.mappings
  emulationRequests : settled.emulationRequests = registry.emulationRequests
  gateRequests : settled.gateRequests = registry.gateRequests
  component : ∀ name component, registry.components.get? name = some component →
    ∃ followed, Follows registry.emulationRequests name (registry.requested name component)
        followed ∧
      settled.components.get? name = some (settleGate followed)
  absent : ∀ name, registry.components.get? name = none → settled.components.get? name = none
  registered : ∀ name, registry.emulationRequests.contains name = true ∨
    registry.gateRequests.contains name = true → registry.isRegistered name = true

/-- Both passes together make of every component what was requested of it. -/
theorem eq_map_requested {registry : Registry} {emulating overridden : Dict Component}
    (versions : changeAll emulate registry.emulationRequests.entries registry.components =
      (.ok (), emulating))
    (gates : changeAll overrideGate registry.gateRequests.entries emulating =
      (.ok (), overridden)) :
    overridden = registry.components.map registry.requested := by
  apply Dict.eq_of_get?
  intro name
  rw [(changeAll_ok registry.gateRequests.increasing gates name).1,
    (changeAll_ok registry.emulationRequests.increasing versions name).1, Option.map_map,
    Dict.get?_map]
  rfl

/-- Settings take effect exactly if all that is named is registered. -/
theorem set_ok_iff {registry settled : Registry} (notApplied : registry.applied = false) :
    registry.set = (.ok (), settled) ↔
      (∀ name, registry.emulationRequests.contains name = true ∨
        registry.gateRequests.contains name = true → registry.isRegistered name = true) ∧
      ∃ followed, applyMappings registry.emulationRequests registry.mappings
          (registry.components.map registry.requested) = (.ok (), followed) ∧
        settled = { registry with
          components := followed.map fun _ component => settleGate component
          applied := true } := by
  unfold set
  rw [notApplied, if_neg Bool.false_ne_true]
  constructor
  · intro done
    split at done
    · cases done
    next emulating versions =>
      split at done
      · cases done
      next overridden gates =>
        split at done
        · cases done
        next followed mapped =>
          cases done
          obtain rfl := eq_map_requested versions gates
          refine ⟨?_, followed, mapped, rfl⟩
          intro name requested
          have first := changeAll_ok registry.emulationRequests.increasing versions name
          have second := changeAll_ok registry.gateRequests.increasing gates name
          rcases requested with version | gate
          · exact first.2 version
          · have known := second.2 gate
            rwa [first.1, Option.isSome_map] at known
  · rintro ⟨registered, followed, mapped, rfl⟩
    obtain ⟨emulating, versions⟩ : ∃ emulating, changeAll emulate
        registry.emulationRequests.entries registry.components = (.ok (), emulating) :=
      exists_changeAll fun entry inside =>
        registered entry.1 (Or.inl (Dict.contains_of_mem inside))
    obtain ⟨overridden, gates⟩ : ∃ overridden, changeAll overrideGate
        registry.gateRequests.entries emulating = (.ok (), overridden) := by
      refine exists_changeAll fun entry inside => ?_
      have known := registered entry.1 (Or.inr (Dict.contains_of_mem inside))
      have changed := changeAll_ok registry.emulationRequests.increasing versions entry.1
      unfold Dict.contains
      rw [changed.1, Option.isSome_map]
      exact known
    obtain rfl := eq_map_requested versions gates
    simp only [versions, gates, mapped]

theorem set_ok {registry settled : Registry} (notApplied : registry.applied = false)
    (done : registry.set = (.ok (), settled)) : registry.Settles settled := by
  obtain ⟨registered, followed, mapped, rfl⟩ := (set_ok_iff notApplied).1 done
  refine ⟨rfl, rfl, rfl, ?_, ?_, registered⟩
  · intro name component found
    have related := applyMappings_ok mapped name
    rw [Dict.get?_map, found, Option.map_some] at related
    rw [Dict.get?_map]
    generalize followed.get? name = final at related ⊢
    cases related with
    | some follows => exact ⟨_, follows, rfl⟩
  · intro name unknown
    have related := applyMappings_ok mapped name
    rw [Dict.get?_map, unknown, Option.map_none] at related
    rw [Dict.get?_map]
    generalize followed.get? name = final at related ⊢
    cases related with
    | none => rfl

/-- The registry is found to let the component emulate a version out of its range. -/
def ReportsRange (registry : Registry) (name : String) : Prop :=
  ∃ requested lowest highest,
    .emulationOutOfRange name requested lowest highest ∈ registry.problems

/-- No gate, no mapping and no other component is a reason for such a report. -/
theorem emulationOutOfRange_mem_problems_iff {registry : Registry} {name : String}
    {requested lowest highest : Version} :
    .emulationOutOfRange name requested lowest highest ∈ registry.problems ↔
      ∃ component, registry.components.get? name = some component ∧
        component.version.problem? name =
          some (.emulationOutOfRange name requested lowest highest) := by
  have listed : .emulationOutOfRange name requested lowest highest ∈ registry.problems ↔
      ∃ entry ∈ registry.components.entries, entry.2.version.problem? entry.1 =
        some (.emulationOutOfRange name requested lowest highest) := by
    simp [problems, FeatureGate.emulationOutOfRange_not_mem_problems]
  rw [listed]
  constructor
  · rintro ⟨⟨owner, component⟩, inside, fault⟩
    rcases component.version.problem?_cases owner with absent | present
    · cases absent.symm.trans fault
    · cases present.symm.trans fault
      exact ⟨component, Dict.get?_eq_some_iff.2 inside, fault⟩
  · rintro ⟨component, found, fault⟩
    exact ⟨(name, component), Dict.get?_eq_some_iff.1 found, fault⟩

theorem reportsRange_iff {registry : Registry} {name : String} :
    registry.ReportsRange name ↔ ∃ component, registry.components.get? name = some component ∧
      component.version.problem? name ≠ none := by
  unfold ReportsRange
  simp only [emulationOutOfRange_mem_problems_iff]
  constructor
  · rintro ⟨requested, lowest, highest, component, found, fault⟩
    exact ⟨component, found, by simp [fault]⟩
  · rintro ⟨component, found, fault⟩
    have present := (component.version.problem?_cases name).resolve_left fault
    exact ⟨_, _, _, component, found, present⟩

/-- A component is reported exactly if it emulates a version outside of its window. -/
theorem reportsRange_iff_of_plain {registry : Registry} {name : String} {component : Component}
    (found : registry.components.get? name = some component)
    (plain : component.version.emulation.majorMinor = component.version.emulation) :
    registry.ReportsRange name ↔ ¬ component.version.InWindow := by
  rw [reportsRange_iff, ← @EffectiveVersion.problem?_eq_none_iff _ name plain, found]
  simp only [Option.some.injEq, exists_eq_left', ne_eq]

/-- In a valid registry every component is in its window. -/
theorem inWindow_of_valid {registry : Registry} {name : String} {component : Component}
    (valid : registry.problems = []) (found : registry.components.get? name = some component)
    (plain : component.version.emulation.majorMinor = component.version.emulation) :
    component.version.InWindow := by
  apply Classical.not_not.1
  rw [← reportsRange_iff_of_plain found plain]
  rintro ⟨requested, lowest, highest, listed⟩
  rw [valid] at listed
  cases listed

section Settled

variable {registry settled : Registry} {declarations : List Declaration} {name : String}

theorem Settles.of_settled (settles : registry.Settles settled) {component : Component}
    (found : settled.components.get? name = some component) :
    ∃ before followed, registry.components.get? name = some before ∧
      Follows registry.emulationRequests name (registry.requested name before) followed ∧
      component = settleGate followed := by
  cases known : registry.components.get? name with
  | none =>
      rw [settles.absent name known] at found
      cases found
  | some before =>
      obtain ⟨followed, follows, stands⟩ := settles.component name before known
      rw [stands] at found
      cases found
      exact ⟨before, followed, rfl, follows, rfl⟩

theorem Settles.isRegistered (settles : registry.Settles settled) :
    settled.isRegistered name = registry.isRegistered name := by
  unfold Registry.isRegistered Dict.contains
  cases known : registry.components.get? name with
  | none => rw [settles.absent name known]
  | some before =>
      obtain ⟨followed, _, stands⟩ := settles.component name before known
      rw [stands]
      rfl

theorem requested_plain {component : Component}
    (plain : component.version.emulation.majorMinor = component.version.emulation) :
    (registry.requested name component).version.emulation.majorMinor =
      (registry.requested name component).version.emulation := by
  unfold requested
  cases registry.gateRequests.get? name <;> cases registry.emulationRequests.get? name
  · exact plain
  · rfl
  · exact plain
  · rfl

theorem requested_known (component : Component) :
    (registry.requested name component).gate.known = component.gate.known := by
  unfold requested
  cases registry.gateRequests.get? name <;> cases registry.emulationRequests.get? name <;> rfl

theorem requested_emulation_eq (component : Component) :
    (registry.requested name component).version.emulation =
      (registry.emulationRequests.get? name).elim component.version.emulation
        Version.majorMinor := by
  unfold requested
  cases registry.gateRequests.get? name <;> cases registry.emulationRequests.get? name <;> rfl

theorem requested_emulation {component : Component} {version : Version}
    (wanted : registry.emulationRequests.get? name = some version) :
    (registry.requested name component).version.emulation = version.majorMinor := by
  rw [requested_emulation_eq, wanted, Option.elim_some]

/-- Nothing that is requested changes the version that a component was built at. -/
theorem requested_binary {component : Component} :
    (registry.requested name component).version.binary = component.version.binary := by
  unfold requested
  cases registry.gateRequests.get? name <;> cases registry.emulationRequests.get? name <;> rfl

theorem requested_version_of_free {component : Component}
    (free : registry.emulationRequests.contains name = false) :
    (registry.requested name component).version = component.version := by
  unfold requested
  rw [Dict.contains_eq_false_iff.1 free]
  cases registry.gateRequests.get? name <;> rfl

theorem requested_override {component : Component} {gates : Dict Bool} {feature : String}
    {enabled : Bool} (wanted : registry.gateRequests.get? name = some gates)
    (chosen : gates.get? feature = some enabled) :
    (registry.requested name component).gate.overrides.get? feature = some enabled := by
  unfold requested
  rw [wanted]
  show (Dict.insertAll _ gates.entries).get? feature = some enabled
  have found : Entries.find? feature gates.entries = some enabled := chosen
  rw [Dict.get?_insertAll gates.increasing, found, Option.some_or]

/-- Neither requests nor mappings change the version that a component was built at. -/
theorem Settles.binary (settles : registry.Settles settled) {before component : Component}
    (known : registry.components.get? name = some before)
    (found : settled.components.get? name = some component) :
    component.version.binary = before.version.binary := by
  obtain ⟨followed, follows, stands⟩ := settles.component name before known
  rw [found] at stands
  cases stands
  exact follows.binary.trans requested_binary

/-- Settings that take effect, now or before, do not change what a gate knows of features. -/
theorem exists_known_of_set (done : registry.set = (.ok (), settled)) {before : Component}
    (found : registry.components.get? name = some before) :
    ∃ component, settled.components.get? name = some component ∧
      component.gate.known = before.gate.known := by
  cases applied : registry.applied with
  | true =>
      rw [set, if_pos applied] at done
      cases done
      exact ⟨before, found, rfl⟩
  | false =>
      obtain ⟨followed, follows, stands⟩ := (set_ok applied done).component name before found
      refine ⟨settleGate followed, stands, ?_⟩
      rw [← @requested_known registry name before, ← follows.gate]
      rfl

variable (reflects : registry.Reflects declarations) (settles : registry.Settles settled)

include reflects settles

/-- Every gate is asked at the version that its component emulates. -/
theorem Settles.sound {component : Component}
    (found : settled.components.get? name = some component) :
    component.Sound ∧ component.gate.emulation = some component.version.emulation := by
  obtain ⟨before, followed, known, follows, rfl⟩ := settles.of_settled found
  have sound := reflects.sound name before known
  have plain := follows.plain (requested_plain sound.plain)
  have features : followed.gate.known = before.gate.known := by
    rw [follows.gate, requested_known]
  refine ⟨⟨plain, ?_⟩, congrArg some plain⟩
  have ordered : FeatureGate.Ordered followed.gate.known := features ▸ sound.ordered
  exact ordered

/-- Every version that was requested last is emulated. -/
theorem Settles.emulates {version : Version}
    (wanted : Declaration.last? (Declaration.version? name) declarations = some version) :
    ∃ component, settled.components.get? name = some component ∧
      component.version.emulation = version.majorMinor := by
  have kept : registry.emulationRequests.get? name = some version.majorMinor := by
    rw [reflects.version, wanted, Option.map_some]
  have contained := Dict.contains_eq_true_iff.2 ⟨_, kept⟩
  obtain ⟨before, known⟩ :=
    Dict.contains_eq_true_iff.1 (settles.registered name (Or.inl contained))
  obtain ⟨followed, follows, stands⟩ := settles.component name before known
  obtain rfl := follows.requested contained
  exact ⟨_, stands, (requested_emulation kept).trans version.majorMinor_majorMinor⟩

/-- Every feature that was requested last is overridden in this way. -/
theorem Settles.overrides {feature : String} {enabled : Bool}
    (wanted : Declaration.last? (Declaration.gate? name feature) declarations = some enabled) :
    ∃ component, settled.components.get? name = some component ∧
      component.gate.overrides.get? feature = some enabled := by
  obtain ⟨gates, kept, chosen⟩ :=
    Option.bind_eq_some_iff.1 ((reflects.gate name feature).trans wanted)
  have contained := Dict.contains_eq_true_iff.2 ⟨gates, kept⟩
  obtain ⟨before, known⟩ :=
    Dict.contains_eq_true_iff.1 (settles.registered name (Or.inr contained))
  obtain ⟨followed, follows, stands⟩ := settles.component name before known
  refine ⟨_, stands, ?_⟩
  show followed.gate.overrides.get? feature = some enabled
  rw [follows.gate]
  exact requested_override kept chosen

omit reflects in
/-- Only mappings that meet a request, versions and gates can be at fault. -/
theorem Settles.problems_eq_nil_iff :
    settled.problems = [] ↔
      (∀ mapping ∈ settled.mappings,
        settled.emulationRequests.contains mapping.target = false) ∧
      ∀ name component, settled.components.get? name = some component →
        component.version.problem? name = none ∧ component.gate.problems name = [] := by
  have registered (component : String)
      (listed : component ∈ settled.emulationRequests.keys ++ settled.gateRequests.keys) :
      settled.isRegistered component = true := by
    rw [settles.emulationRequests, settles.gateRequests, List.mem_append, Dict.mem_keys_iff,
      Dict.mem_keys_iff] at listed
    rw [settles.isRegistered]
    exact settles.registered component listed
  have noneUnknown : ((settled.emulationRequests.keys ++ settled.gateRequests.keys).filter
      fun component => !settled.isRegistered component) = [] := by
    rw [List.filter_eq_nil_iff]
    intro component listed
    simp [registered component listed]
  unfold problems
  simp only [noneUnknown, List.map_nil, List.nil_append, List.append_eq_nil_iff,
    List.map_eq_nil_iff, List.filter_eq_nil_iff, Bool.not_eq_true, List.flatMap_eq_nil_iff,
    Option.toList_eq_nil_iff]
  constructor
  · rintro ⟨free, valid⟩
    exact ⟨free, fun name component found =>
      valid (name, component) (Dict.get?_eq_some_iff.1 found)⟩
  · rintro ⟨free, valid⟩
    exact ⟨free, fun entry inside =>
      valid entry.1 entry.2 (Dict.get?_eq_some_iff.2 inside)⟩

end Settled

/-- In a valid registry the last requests are in force, and nothing contradicts them. -/
theorem valid_settings_in_force {declarations : List Declaration} {settled : Registry}
    (done : (declared declarations).set = (.ok (), settled)) :
    (settled.problems = [] ↔
      (∀ mapping ∈ settled.mappings,
        Declaration.last? (Declaration.version? mapping.target) declarations = none) ∧
      ∀ name component, settled.components.get? name = some component →
        component.version.InWindow ∧
        ∀ feature enabled, component.gate.overrides.get? feature = some enabled →
          ∃ spec, component.gate.InForce feature component.version.emulation spec ∧
            (spec.locked = true → spec.default = enabled)) ∧
    (settled.problems = [] →
      (∀ name version,
        Declaration.last? (Declaration.version? name) declarations = some version →
        ∃ component, settled.components.get? name = some component ∧
          component.version.emulation = version.majorMinor) ∧
      (∀ name feature enabled,
        Declaration.last? (Declaration.gate? name feature) declarations = some enabled →
        ∃ component, settled.components.get? name = some component ∧
          component.gate.isEnabled feature = enabled) ∧
      ∀ name component, settled.components.get? name = some component →
        component.gate.emulation = some component.version.emulation) := by
  have reflects := reflects_declared declarations
  have settles := set_ok reflects.notApplied done
  have requested (name : String) : settled.emulationRequests.contains name = false ↔
      Declaration.last? (Declaration.version? name) declarations = none := by
    rw [Dict.contains_eq_false_iff, settles.emulationRequests, reflects.version,
      Option.map_eq_none_iff]
  refine ⟨?_, ?_⟩
  · rw [settles.problems_eq_nil_iff]
    simp only [requested]
    refine and_congr_right fun _ => ?_
    refine forall_congr' fun name => forall_congr' fun component => forall_congr' fun found => ?_
    obtain ⟨sound, emulates⟩ := settles.sound reflects found
    rw [EffectiveVersion.problem?_eq_none_iff sound.plain,
      FeatureGate.problems_eq_nil_iff sound.ordered emulates]
  · intro valid
    refine ⟨?_, ?_, ?_⟩
    · intro name version wanted
      exact settles.emulates reflects wanted
    · intro name feature enabled wanted
      obtain ⟨component, found, chosen⟩ := settles.overrides reflects wanted
      obtain ⟨sound, emulates⟩ := settles.sound reflects found
      have accepted := ((settles.problems_eq_nil_iff.1 valid).2 name component found).2
      exact ⟨component, found,
        FeatureGate.isEnabled_of_problems sound.ordered emulates accepted chosen⟩
    · intro name component found
      exact (settles.sound reflects found).2

section Rollback

/-- From version 1.4 on, the feature is locked. Before that it can be chosen. -/
def cachingSpecs : FeatureSpecs :=
  Dict.singleton "caching"
    [⟨⟨1, 4, 0⟩, false, .deprecated, true⟩, ⟨⟨1, 2, 0⟩, false, .beta, false⟩]

def appCandidate : Candidate where
  component := ⟨.new ⟨1, 4, 1⟩, FeatureGate.empty.addVersioned cachingSpecs⟩
  version := .new _
  gate := .addVersioned _ .empty

def kubeCandidate : Candidate where
  component := ⟨.new ⟨1, 34, 0⟩, .empty⟩
  version := .new _
  gate := .empty

/-- The component goes back to the version at which its feature can be chosen. -/
def rollback : List Declaration :=
  [.register "app" appCandidate, .registerOrKeep "kube" kubeCandidate,
    .map "app" "kube" (dependentVersionMapping ⟨1, 4, 0⟩ ⟨1, 34, 0⟩),
    .requestEmulation "app" ⟨1, 4, 0⟩, .requestEmulation "app" ⟨1, 2, 5⟩,
    .requestGates "app" (.singleton "caching" false),
    .requestGates "app" (.singleton "caching" true)]

theorem rollback_in_force :
    ∃ settled, (declared rollback).set = (.ok (), settled) ∧ settled.problems = [] ∧
      (∃ component, settled.components.get? "app" = some component ∧
        component.version.emulation = ⟨1, 2, 0⟩) ∧
      ∃ component, settled.components.get? "app" = some component ∧
        component.gate.isEnabled "caching" = true := by
  have done : (declared rollback).set = (.ok (), (declared rollback).set.2) := rfl
  have valid : (declared rollback).set.2.problems = [] := by decide +kernel
  obtain ⟨versions, gates, _⟩ := (valid_settings_in_force done).2 valid
  exact ⟨_, done, valid, versions "app" ⟨1, 2, 5⟩ (by decide +kernel),
    gates "app" "caching" true (by decide +kernel)⟩

end Rollback

end ResourceApi.Registry
