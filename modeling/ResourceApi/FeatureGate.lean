/-
This file defines feature gates. A gate says whether a feature is enabled at the version that its
component emulates.
-/

import ResourceApi.Dict
import ResourceApi.Version

namespace ResourceApi

inductive Stage where
  | alpha
  | beta
  | generallyAvailable
  | deprecated
  deriving DecidableEq, Inhabited

def Stage.ofName? : String → Option Stage
  | "Alpha" => some .alpha
  | "Beta" => some .beta
  | "GA" => some .generallyAvailable
  | "Deprecated" => some .deprecated
  | _ => none

/-- How a feature behaves from a version on. -/
structure FeatureSpec where
  version : Version
  default : Bool
  stage : Stage
  locked : Bool := false
  deriving DecidableEq, Inhabited

abbrev FeatureSpecs := Dict (List FeatureSpec)

structure FeatureGate where
  /-- The specifications of a feature are in the order of their versions. -/
  known : FeatureSpecs := .empty
  overrides : Dict Bool := .empty
  emulation : Option Version := none
  deriving DecidableEq

namespace FeatureGate

def empty : FeatureGate := {}

instance : Inhabited FeatureGate := ⟨empty⟩

/-- A specification goes behind all that are not newer. -/
def insertSpec (spec : FeatureSpec) : List FeatureSpec → List FeatureSpec
  | [] => [spec]
  | head :: rest =>
      if spec.version < head.version then spec :: head :: rest else head :: insertSpec spec rest

def insertSpecs (specs : List FeatureSpec) (known : List FeatureSpec) : List FeatureSpec :=
  specs.foldl (fun known spec => insertSpec spec known) known

def addFeature (known : FeatureSpecs) (feature : String × List FeatureSpec) : FeatureSpecs :=
  known.insert feature.1 (insertSpecs feature.2 ((known.get? feature.1).getD []))

/-- The specifications join those already known. -/
def addVersioned (gate : FeatureGate) (features : FeatureSpecs) : FeatureGate :=
  { gate with known := features.entries.foldl addFeature gate.known }

def override (gate : FeatureGate) (overrides : Dict Bool) : FeatureGate :=
  { gate with overrides := gate.overrides.insertAll overrides.entries }

def withEmulation (gate : FeatureGate) (version : Version) : FeatureGate :=
  { gate with emulation := some version.majorMinor }

/-- The last specification that is not newer than the emulated version is in force. -/
def currentSpec (gate : FeatureGate) (feature : String) : Option FeatureSpec :=
  match gate.known.get? feature with
  | none => none
  | some specs =>
      match gate.emulation with
      | none => specs.getLast?
      | some emulation => (specs.filter fun spec => spec.version ≤ emulation).getLast?

def isEnabled (gate : FeatureGate) (feature : String) : Bool :=
  match gate.currentSpec feature with
  | none => false
  | some spec =>
      if spec.locked then spec.default else (gate.overrides.get? feature).getD spec.default

def overrideProblem? (gate : FeatureGate) (component feature : String) (enabled : Bool) :
    Option VersionError :=
  match gate.currentSpec feature with
  | none => some (.unknownFeature component feature)
  | some spec =>
      if spec.locked ∧ spec.default ≠ enabled then
        some (.lockedFeature component feature spec.default)
      else none

def problems (gate : FeatureGate) (component : String) : List VersionError :=
  gate.overrides.entries.filterMap fun entry => gate.overrideProblem? component entry.1 entry.2

end FeatureGate

end ResourceApi
