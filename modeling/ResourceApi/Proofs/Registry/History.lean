/-
This file follows a registry over a whole history, in which declarations and attempts to let the
settings take effect come in any order. An attempt that fails is not without effect: it has met the
requests that come before the one at which it stops.
-/

import ResourceApi.Proofs.Registry.Attempt

namespace ResourceApi

inductive Operation where
  | declare (declaration : Declaration)
  | set

namespace Operation

def declaration? : Operation → Option Declaration
  | .declare declaration => some declaration
  | .set => none

/-- These are the declarations among the operations, in their order. -/
def declarations (history : List Operation) : List Declaration :=
  history.filterMap declaration?

end Operation

namespace Registry

def operate (registry : Registry) : Operation → Registry
  | .declare declaration => registry.declare declaration
  | .set => registry.set.2

/-- This registry is new but for the operations. -/
def ofHistory (history : List Operation) : Registry :=
  history.foldl operate .empty

theorem WellWired.operate {registry : Registry} (wired : registry.WellWired)
    (operation : Operation) : (registry.operate operation).WellWired := by
  cases operation with
  | declare declaration => exact wired.declare declaration
  | set => exact wired.set

theorem wellWired_ofHistory (history : List Operation) : (ofHistory history).WellWired := by
  have run : ∀ registry : Registry, registry.WellWired →
      (history.foldl operate registry).WellWired := by
    induction history with
    | nil => exact fun _ wired => wired
    | cons operation rest inductionHypothesis =>
        intro registry wired
        exact inductionHypothesis _ (wired.operate operation)
  exact run .empty wellWired_empty

/-- An attempt that fails has met the requests before, and changed nothing else. -/
theorem failed_set_meets_earlier_requests {history : List Operation} {result : Registry}
    {error : VersionError} (failed : (ofHistory history).set = (.error error, result)) :
    ∃ missing, error = .unknownComponent missing ∧ (ofHistory history).StopsAt missing ∧
      result = { ofHistory history with
        components :=
          (ofHistory history).components.map ((ofHistory history).attempted missing) } ∧
      (result = ofHistory history ↔
        ∀ name component, (ofHistory history).components.get? name = some component →
          (ofHistory history).attempted missing name component = component) := by
  obtain ⟨missing, reported, stops, left⟩ := (wellWired_ofHistory history).set_error failed
  refine ⟨missing, reported, stops, left, ?_⟩
  rw [left]
  generalize ofHistory history = registry
  constructor
  · intro same name component known
    have here := congrArg (fun other : Registry => other.components.get? name) same
    simpa [known] using here
  · intro met
    have same : registry.components.map (registry.attempted missing) = registry.components := by
      apply Dict.eq_of_get?
      intro name
      rw [Dict.get?_map]
      cases known : registry.components.get? name with
      | none => rfl
      | some component => rw [Option.map_some, met name component known]
    rw [same]

section Sample

/-- The first request is met before the one for a missing component. -/
def halfMet : List Operation :=
  [.declare (.register "a" tenth), .declare (.requestEmulation "a" ⟨1, 9, 0⟩),
    .declare (.requestEmulation "z" ⟨1, 0, 0⟩)]

theorem failed_set_leaves_first_version :
    ∃ result, (ofHistory halfMet).set = (.error (.unknownComponent "z"), result) ∧
      result ≠ ofHistory halfMet ∧
      result.version? "a" = some ⟨⟨1, 10, 0⟩, ⟨1, 9, 0⟩, ⟨1, 8, 0⟩⟩ := by
  have failed : (ofHistory halfMet).set =
      (.error (.unknownComponent "z"), (ofHistory halfMet).set.2) := rfl
  obtain ⟨missing, reported, _, _, unchanged⟩ := failed_set_meets_earlier_requests failed
  cases reported
  refine ⟨_, failed, fun same => ?_, rfl⟩
  have met := unchanged.1 same "a" _ rfl
  have version := congrArg (fun component => component.version.emulation) met
  exact absurd version (by decide +kernel)

end Sample

end Registry

end ResourceApi
