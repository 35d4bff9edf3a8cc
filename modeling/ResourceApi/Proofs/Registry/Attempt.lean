/-
This file shows what is left behind when the settings of a registry fail to take effect. The first
request that names no component stops the attempt, and what was requested before stays in effect. A
later attempt makes the same of the components as if there had been none.
-/

import ResourceApi.Proofs.Registry.Mapping

namespace ResourceApi

namespace Registry

variable {registry : Registry} {name : String}

/-- This is what the request for its version makes of a component. -/
def emulating (registry : Registry) (name : String) (component : Component) : Component :=
  (registry.emulationRequests.get? name).elim component (emulate component)

theorem requested_eq (component : Component) :
    registry.requested name component =
      (registry.gateRequests.get? name).elim (registry.emulating name component)
        (overrideGate (registry.emulating name component)) := rfl

/-- A version that is in effect already can be requested again. -/
theorem emulating_emulating (component : Component) :
    registry.emulating name (registry.emulating name component) =
      registry.emulating name component := by
  unfold emulating
  cases registry.emulationRequests.get? name <;> rfl

theorem requested_emulating (component : Component) :
    registry.requested name (registry.emulating name component) =
      registry.requested name component := by
  rw [requested_eq, requested_eq, emulating_emulating]

theorem emulating_overrideGate (component : Component) (gates : Dict Bool) :
    registry.emulating name (overrideGate component gates) =
      overrideGate (registry.emulating name component) gates := by
  unfold emulating
  cases registry.emulationRequests.get? name <;> rfl

theorem overrideGate_overrideGate (component : Component) (first second : Dict Bool) :
    overrideGate (overrideGate component first) second =
      overrideGate component (first.insertAll second.entries) := by
  unfold overrideGate
  rw [FeatureGate.override_override]

/-- All that is requested can be requested again. -/
theorem requested_requested (component : Component) :
    registry.requested name (registry.requested name component) =
      registry.requested name component := by
  cases wanted : registry.gateRequests.get? name with
  | none =>
      have unasked (other : Component) :
          registry.requested name other = registry.emulating name other := by
        rw [requested_eq, wanted]
        rfl
      rw [unasked, unasked, emulating_emulating]
  | some gates =>
      have asked (other : Component) :
          registry.requested name other = overrideGate (registry.emulating name other) gates := by
        rw [requested_eq, wanted]
        rfl
      rw [asked, asked, emulating_overrideGate, emulating_emulating, overrideGate_overrideGate,
        Dict.insertAll_self]

/-- This is the first name with a request that no component has. -/
structure FirstUnknown {Wanted : Type} (registry : Registry) (requests : Dict Wanted)
    (missing : String) : Prop where
  requested : requests.contains missing = true
  unknown : registry.isRegistered missing = false
  first : ∀ name, name < missing → requests.contains name = true →
    registry.isRegistered name = true

/-- Here an attempt stops. Requests for versions come before requests for gates. -/
inductive StopsAt (registry : Registry) (missing : String) : Prop
  | version (unknown : registry.FirstUnknown registry.emulationRequests missing)
  | gate (registered : ∀ name, registry.emulationRequests.contains name = true →
        registry.isRegistered name = true)
      (unknown : registry.FirstUnknown registry.gateRequests missing)

/-- This is what an attempt that stops at a missing component makes of another one. -/
def attempted (registry : Registry) (missing name : String) (component : Component) : Component :=
  if registry.emulationRequests.contains missing = true then
    if name < missing then registry.emulating name component else component
  else if name < missing then registry.requested name component
  else registry.emulating name component

theorem attempted_cases (missing : String) (component : Component) :
    registry.attempted missing name component = component ∨
    registry.attempted missing name component = registry.emulating name component ∨
    registry.attempted missing name component = registry.requested name component := by
  unfold attempted
  split
  · split
    · exact Or.inr (Or.inl rfl)
    · exact Or.inl rfl
  · split
    · exact Or.inr (Or.inr rfl)
    · exact Or.inr (Or.inl rfl)

/-- What an attempt has done before it stopped does not count for the next one. -/
theorem requested_attempted (missing : String) (component : Component) :
    registry.requested name (registry.attempted missing name component) =
      registry.requested name component := by
  rcases attempted_cases missing component with same | same | same
  · rw [same]
  · rw [same, requested_emulating]
  · rw [same, requested_requested]

section Stops

variable {emulated overridden : Dict Component} {error : VersionError}

/-- Where the requests for versions stop, those for gates have not begun. -/
theorem stopsAt_of_versions
    (failed : changeAll emulate registry.emulationRequests.entries registry.components =
      (.error error, emulated)) :
    ∃ missing, error = .unknownComponent missing ∧ registry.StopsAt missing ∧
      emulated = registry.components.map (registry.attempted missing) := by
  obtain ⟨missing, reported, named, unknown, known, changed⟩ :=
    changeAll_error registry.emulationRequests.increasing failed
  have inVersions : registry.emulationRequests.contains missing = true := named
  refine ⟨missing, reported, ?_, ?_⟩
  · exact .version ⟨named, Dict.contains_eq_false_iff.2 unknown, known⟩
  · apply Dict.eq_of_get?
    intro name
    rw [changed name, Dict.get?_map]
    unfold attempted
    simp only [inVersions, if_true]
    rfl

/-- Where the requests for gates stop, those for versions have all been met. -/
theorem stopsAt_of_gates
    (versions : changeAll emulate registry.emulationRequests.entries registry.components =
      (.ok (), emulated))
    (failed : changeAll overrideGate registry.gateRequests.entries emulated =
      (.error error, overridden)) :
    ∃ missing, error = .unknownComponent missing ∧ registry.StopsAt missing ∧
      overridden = registry.components.map (registry.attempted missing) := by
  have pass (name : String) := changeAll_ok registry.emulationRequests.increasing versions name
  have registered (name : String) (asked : registry.emulationRequests.contains name = true) :
      registry.isRegistered name = true := (pass name).2 asked
  have kept (name : String) :
      (emulated.get? name).isSome = (registry.components.get? name).isSome := by
    rw [(pass name).1, Option.isSome_map]
  obtain ⟨missing, reported, named, unknown, known, changed⟩ :=
    changeAll_error registry.gateRequests.increasing failed
  have absent : registry.isRegistered missing = false := by
    have gone := kept missing
    rw [unknown] at gone
    exact gone.symm
  have notInVersions : ¬ registry.emulationRequests.contains missing = true := by
    intro asked
    have present := registered missing asked
    rw [absent] at present
    cases present
  have first (name : String) (below : name < missing)
      (asked : registry.gateRequests.contains name = true) :
      registry.isRegistered name = true := (kept name).symm.trans (known name below asked)
  refine ⟨missing, reported, .gate registered ⟨named, absent, first⟩, ?_⟩
  apply Dict.eq_of_get?
  intro name
  rw [changed name, (pass name).1, Option.map_map, Dict.get?_map]
  unfold attempted
  simp only [notInVersions]
  rfl

/-- An attempt that fails has met all requests before the one it stops at. -/
theorem WellWired.set_error (wired : registry.WellWired) {result : Registry}
    (failed : registry.set = (.error error, result)) :
    ∃ missing, error = .unknownComponent missing ∧ registry.StopsAt missing ∧
      result = { registry with
        components := registry.components.map (registry.attempted missing) } := by
  unfold set at failed
  split at failed
  · cases failed
  · split at failed
    next cause emulated versions =>
      cases failed
      obtain ⟨missing, reported, stops, here⟩ := stopsAt_of_versions versions
      exact ⟨missing, reported, stops, by rw [here]⟩
    next emulated versions =>
      split at failed
      next cause overridden gates =>
        cases failed
        obtain ⟨missing, reported, stops, here⟩ := stopsAt_of_gates versions gates
        exact ⟨missing, reported, stops, by rw [here]⟩
      next overridden gates =>
        -- The requests have all been met, and the mappings find their sources.
        obtain ⟨followed, mapped⟩ := wired.exists_applyMappings
        rw [eq_map_requested versions gates, mapped] at failed
        cases failed

end Stops

/-- What is registered and mapped decides whether mappings are wired. -/
theorem WellWired.of_same {other : Registry} (wired : registry.WellWired)
    (mappings : other.mappings = registry.mappings)
    (registered : ∀ name, other.isRegistered name = registry.isRegistered name) :
    other.WellWired where
  apart := mappings ▸ wired.apart
  source := fun mapping inside =>
    (registered mapping.source).trans (wired.source mapping (mappings ▸ inside))
  target := fun mapping inside =>
    (registered mapping.target).trans (wired.target mapping (mappings ▸ inside))
  single := mappings ▸ wired.single

/-- An attempt changes neither the mappings nor what is registered. -/
theorem WellWired.set (wired : registry.WellWired) : registry.set.2.WellWired := by
  cases attempt : registry.set with
  | mk outcome result =>
      cases outcome with
      | error error =>
          obtain ⟨missing, _, _, rfl⟩ := wired.set_error attempt
          refine wired.of_same ?_ fun name => ?_
          · rfl
          · unfold isRegistered Dict.contains
            rw [Dict.get?_map, Option.isSome_map]
      | ok =>
          cases applied : registry.applied with
          | true =>
              rw [Registry.set, if_pos applied] at attempt
              cases attempt
              exact wired
          | false =>
              have settles := set_ok applied attempt
              exact wired.of_same settles.mappings fun name => settles.isRegistered

end Registry

end ResourceApi
