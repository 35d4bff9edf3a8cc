/-
This file says why the settings of a registry can fail to take effect. The mappings always find their
sources, so the only reason is a request that names a component which nobody has registered, and the
first of these names is reported.
-/

import ResourceApi.Proofs.Registry.Outcome

namespace ResourceApi

namespace Declaration

/-- There is a request for the component, and nothing registers it. -/
def Missing {Value : Type} (reads : String → Declaration → Option Value)
    (declarations : List Declaration) (name : String) : Prop :=
  (∃ declaration ∈ declarations, (reads name declaration).isSome = true) ∧
    ∀ declaration ∈ declarations, declaration.component? name = none

def FirstMissing {Value : Type} (reads : String → Declaration → Option Value)
    (declarations : List Declaration) (name : String) : Prop :=
  Missing reads declarations name ∧ ∀ earlier, earlier < name → ¬ Missing reads declarations earlier

/-- A missing component with a request for a version is reported first. -/
inductive Reported (declarations : List Declaration) (name : String) : Prop
  | version (first : FirstMissing version? declarations name)
  | gate (allRegistered : ∀ other, ¬ Missing version? declarations other)
      (first : FirstMissing gates? declarations name)

theorem isSome_last?_iff {Value : Type} {reads : Declaration → Option Value}
    {declarations : List Declaration} :
    (last? reads declarations).isSome = true ↔
      ∃ declaration ∈ declarations, (reads declaration).isSome = true := by
  simp [last?, List.findSome?_isSome_iff]

theorem registered?_eq_none_iff {name : String} {declarations : List Declaration} :
    registered? name declarations = none ↔
      ∀ declaration ∈ declarations, declaration.component? name = none :=
  List.findSome?_eq_none_iff

end Declaration

namespace Registry

section Reasons

variable {registry : Registry}

theorem FirstUnknown.unique {Wanted : Type} {requests : Dict Wanted} {first second : String}
    (here : registry.FirstUnknown requests first) (there : registry.FirstUnknown requests second) :
    first = second := by
  rcases Std.lt_trichotomy first second with less | same | greater
  · have known := there.first first less here.requested
    rw [here.unknown] at known
    cases known
  · exact same
  · have known := here.first second greater there.requested
    rw [there.unknown] at known
    cases known

/-- An attempt stops at one place only. -/
theorem StopsAt.unique {first second : String} (here : registry.StopsAt first)
    (there : registry.StopsAt second) : first = second := by
  have apart {version gate : String}
      (unknown : registry.FirstUnknown registry.emulationRequests version)
      (registered : ∀ name, registry.emulationRequests.contains name = true →
        registry.isRegistered name = true) : version = gate := by
    have known := registered version unknown.requested
    rw [unknown.unknown] at known
    cases known
  cases here with
  | version unknown =>
      cases there with
      | version other => exact unknown.unique other
      | gate registered _ => exact apart unknown registered
  | gate registered unknown =>
      cases there with
      | version other => exact (apart other registered).symm
      | gate _ other => exact unknown.unique other

theorem StopsAt.unregistered {missing : String} (stops : registry.StopsAt missing) :
    (registry.emulationRequests.contains missing = true ∨
      registry.gateRequests.contains missing = true) ∧ registry.isRegistered missing = false := by
  cases stops with
  | version unknown => exact ⟨Or.inl unknown.requested, unknown.unknown⟩
  | gate _ unknown => exact ⟨Or.inr unknown.requested, unknown.unknown⟩

/-- An attempt fails if some request names a component that is not registered. -/
theorem exists_set_error {name : String} (notApplied : registry.applied = false)
    (requested : registry.emulationRequests.contains name = true ∨
      registry.gateRequests.contains name = true)
    (unknown : registry.isRegistered name = false) : ∃ error, registry.set.1 = .error error := by
  cases attempt : registry.set with
  | mk outcome result =>
      cases outcome with
      | error error => exact ⟨error, rfl⟩
      | ok =>
          have known := ((set_ok_iff notApplied).1 attempt).1 name requested
          rw [unknown] at known
          cases known

/-- What an attempt reports is the component at which it stops. -/
theorem WellWired.set_error_iff (wired : registry.WellWired) (notApplied : registry.applied = false)
    {error : VersionError} :
    registry.set.1 = .error error ↔
      ∃ missing, error = .unknownComponent missing ∧ registry.StopsAt missing := by
  have stopped {cause : VersionError} (failed : registry.set.1 = .error cause) :
      ∃ missing, cause = .unknownComponent missing ∧ registry.StopsAt missing := by
    have attempt : registry.set = (.error cause, registry.set.2) := Prod.ext failed rfl
    obtain ⟨missing, reported, stops, _⟩ := wired.set_error attempt
    exact ⟨missing, reported, stops⟩
  refine ⟨stopped, ?_⟩
  rintro ⟨missing, rfl, stops⟩
  obtain ⟨requested, unknown⟩ := stops.unregistered
  obtain ⟨cause, failed⟩ := exists_set_error notApplied requested unknown
  obtain ⟨other, rfl, stopsThere⟩ := stopped failed
  rw [failed, stops.unique stopsThere]

/-- It is the turn of the mappings, with these components. -/
def ReachesMappings (registry : Registry) (components : Dict Component) : Prop :=
  ∃ emulated, changeAll emulate registry.emulationRequests.entries registry.components =
      (.ok (), emulated) ∧
    changeAll overrideGate registry.gateRequests.entries emulated = (.ok (), components)

theorem WellWired.mappings_succeed (wired : registry.WellWired) {components : Dict Component}
    (reached : registry.ReachesMappings components) :
    ∃ followed, applyMappings registry.emulationRequests registry.mappings components =
      (.ok (), followed) := by
  obtain ⟨emulated, versions, gates⟩ := reached
  rw [eq_map_requested versions gates]
  exact wired.exists_applyMappings

end Reasons

section Declared

variable {registry : Registry} {declarations : List Declaration}

theorem Pending.isRegistered_eq_false_iff (pending : registry.Pending declarations) {name : String} :
    registry.isRegistered name = false ↔
      ∀ declaration ∈ declarations, declaration.component? name = none := by
  have same := congrArg Option.isSome (pending.component name)
  rw [Option.isSome_map, Option.isSome_map] at same
  rw [← Declaration.registered?_eq_none_iff, isRegistered, Dict.contains, same,
    Option.isSome_eq_false_iff, Option.isNone_iff_eq_none]

/-- A component is missing if the registry has nothing but a request for it. -/
theorem Pending.missing_version_iff (pending : registry.Pending declarations) {name : String} :
    Declaration.Missing Declaration.version? declarations name ↔
      registry.emulationRequests.contains name = true ∧ registry.isRegistered name = false := by
  rw [Declaration.Missing, ← pending.isRegistered_eq_false_iff, ← Declaration.isSome_last?_iff,
    Dict.contains, pending.reflects.version, Option.isSome_map]

theorem Pending.missing_gates_iff (pending : registry.Pending declarations) {name : String} :
    Declaration.Missing Declaration.gates? declarations name ↔
      registry.gateRequests.contains name = true ∧ registry.isRegistered name = false := by
  rw [Declaration.Missing, ← pending.isRegistered_eq_false_iff, ← Declaration.isSome_last?_iff,
    pending.asked]

theorem firstUnknown_iff {Wanted Value : Type} {requests : Dict Wanted}
    {reads : String → Declaration → Option Value}
    (missing : ∀ name, Declaration.Missing reads declarations name ↔
      requests.contains name = true ∧ registry.isRegistered name = false) {name : String} :
    registry.FirstUnknown requests name ↔ Declaration.FirstMissing reads declarations name := by
  unfold Declaration.FirstMissing
  simp only [missing, not_and, Bool.not_eq_false]
  constructor
  · intro first
    exact ⟨⟨first.requested, first.unknown⟩, first.first⟩
  · rintro ⟨⟨requested, unknown⟩, first⟩
    exact ⟨requested, unknown, first⟩

theorem Pending.stopsAt_iff (pending : registry.Pending declarations) {name : String} :
    registry.StopsAt name ↔ Declaration.Reported declarations name := by
  have versions := @firstUnknown_iff _ _ _ _ _ _ (fun _ => pending.missing_version_iff) name
  have gates := @firstUnknown_iff _ _ _ _ _ _ (fun _ => pending.missing_gates_iff) name
  have registered : (∀ other, registry.emulationRequests.contains other = true →
      registry.isRegistered other = true) ↔
      ∀ other, ¬ Declaration.Missing Declaration.version? declarations other := by
    simp only [pending.missing_version_iff, not_and, Bool.not_eq_false]
  constructor
  · intro stops
    cases stops with
    | version unknown => exact .version (versions.1 unknown)
    | gate known unknown => exact .gate (registered.1 known) (gates.1 unknown)
  · intro reported
    cases reported with
    | version first => exact .version (versions.2 first)
    | gate known first => exact .gate (registered.2 known) (gates.2 first)

/-- Some component is missing exactly if one of them can be reported. -/
theorem Pending.exists_error_iff (pending : registry.Pending declarations) :
    (∃ error, registry.set.1 = .error error) ↔
      ∃ name, Declaration.Missing Declaration.version? declarations name ∨
        Declaration.Missing Declaration.gates? declarations name := by
  have notApplied := pending.reflects.notApplied
  simp only [pending.missing_version_iff, pending.missing_gates_iff, ← or_and_right]
  constructor
  · rintro ⟨error, failed⟩
    obtain ⟨missing, _, stops⟩ := (pending.wired.set_error_iff notApplied).1 failed
    exact ⟨missing, stops.unregistered⟩
  · rintro ⟨name, requested, unknown⟩
    exact exists_set_error notApplied requested unknown

end Declared

/-- An attempt fails exactly for the first component that is requested and missing. -/
theorem set_fails_only_for_missing (history : List Operation) :
    (ofHistory history).WellWired ∧
    (∀ components, (ofHistory history).ReachesMappings components →
      ∃ followed, applyMappings (ofHistory history).emulationRequests
        (ofHistory history).mappings components = (.ok (), followed)) ∧
    (AttemptsFail .empty history →
      ((∃ error, (ofHistory history).set.1 = .error error) ↔
        ∃ name,
          Declaration.Missing Declaration.version? (Operation.declarations history) name ∨
          Declaration.Missing Declaration.gates? (Operation.declarations history) name) ∧
      ∀ error, (ofHistory history).set.1 = .error error ↔
        ∃ name, error = .unknownComponent name ∧
          Declaration.Reported (Operation.declarations history) name) := by
  have wired := wellWired_ofHistory history
  refine ⟨wired, fun components => wired.mappings_succeed, ?_⟩
  intro fails
  have pending := pending_ofHistory fails
  refine ⟨pending.exists_error_iff, fun error => ?_⟩
  rw [wired.set_error_iff pending.reflects.notApplied]
  simp only [pending.stopsAt_iff]

section Sample

/-- The first attempt fails for lack of the second component. -/
def unregistered : List Operation :=
  [.declare (.register "a" tenth), .declare (.requestEmulation "b" ⟨1, 9, 0⟩), .set,
    .declare (.register "b" tenth), .declare (.register "e" tenth),
    .declare (.map "a" "e" (link "a" "e").mapping),
    .declare (.requestGates "c" (.singleton "x" true)),
    .declare (.requestEmulation "d" ⟨1, 9, 0⟩)]

/-- In the end all components are registered. -/
def registeredLate : List Operation :=
  unregistered ++ [.set, .declare (.register "c" tenth), .declare (.register "d" tenth)]

theorem version_reported_before_gate :
    (∃ components followed, (ofHistory registeredLate).ReachesMappings components ∧
      applyMappings (ofHistory registeredLate).emulationRequests
        (ofHistory registeredLate).mappings components = (.ok (), followed)) ∧
    AttemptsFail .empty unregistered ∧
    (ofHistory unregistered).set.1 = .error (.unknownComponent "d") ∧
    Declaration.Reported (Operation.declarations unregistered) "d" := by
  have reached : (ofHistory registeredLate).ReachesMappings _ := ⟨_, rfl, rfl⟩
  have fails : AttemptsFail .empty unregistered :=
    ⟨nofun, nofun, fun _ => ⟨_, rfl⟩, nofun, nofun, nofun, nofun, nofun, trivial⟩
  have failed : (ofHistory unregistered).set.1 = .error (.unknownComponent "d") := rfl
  obtain ⟨followed, mapped⟩ := (set_fails_only_for_missing registeredLate).2.1 _ reached
  obtain ⟨name, same, reported⟩ :=
    (((set_fails_only_for_missing unregistered).2.2 fails).2 _).1 failed
  cases same
  exact ⟨⟨_, followed, reached, mapped⟩, fails, failed, reported⟩

end Sample

end Registry

end ResourceApi
