/-
This file defines the registry of components. Components register with their versions and feature
gates. Requests and mappings are collected and take effect together, once.
-/

import ResourceApi.FeatureGate
import ResourceApi.Text.Quoted
import ResourceApi.Version.Effective

namespace ResourceApi

structure Component where
  version : EffectiveVersion
  gate : FeatureGate
  deriving DecidableEq

/-- The version that the target emulates follows the version that the source emulates. -/
structure EmulationMapping where
  source : String
  target : String
  mapping : VersionMapping

structure Registry where
  components : Dict Component := .empty
  mappings : List EmulationMapping := []
  emulationRequests : Dict Version := .empty
  gateRequests : Dict (Dict Bool) := .empty
  applied : Bool := false

namespace Registry

def empty : Registry := {}

instance : Inhabited Registry := ⟨empty⟩

def isRegistered (registry : Registry) (component : String) : Bool :=
  registry.components.contains component

def version? (registry : Registry) (component : String) : Option EffectiveVersion :=
  (registry.components.get? component).map Component.version

def gate? (registry : Registry) (component : String) : Option FeatureGate :=
  (registry.components.get? component).map Component.gate

def register (registry : Registry) (name : String) (component : Component) :
    Except VersionError Registry :=
  if registry.isRegistered name then .error (.duplicateComponent name)
  else .ok { registry with components := registry.components.insert name component }

/-- A component that is registered already stays as it is. -/
def registerOrKeep (registry : Registry) (name : String) (component : Component) : Registry :=
  if registry.isRegistered name then registry
  else { registry with components := registry.components.insert name component }

/-- Both ends must be registered, and a component follows one other at most. -/
def map (registry : Registry) (source target : String) (mapping : VersionMapping) :
    Except VersionError Registry :=
  if source = target then .error (.selfMapping source)
  else if !registry.isRegistered source then .error (.unknownComponent source)
  else if !registry.isRegistered target then .error (.unknownComponent target)
  else
    match registry.mappings.find? fun existing => existing.target = target with
    | some existing => .error (.duplicateMapping existing.source target)
    | none => .ok { registry with mappings := registry.mappings ++ [⟨source, target, mapping⟩] }

def requestEmulation (registry : Registry) (component : String) (version : Version) : Registry :=
  { registry with
    emulationRequests := registry.emulationRequests.insert component version.majorMinor }

/-- Requests for one component add up, and a later one for a feature wins. -/
def requestGates (registry : Registry) (component : String) (overrides : Dict Bool) : Registry :=
  let requested := (registry.gateRequests.get? component).getD .empty
  { registry with
    gateRequests :=
      registry.gateRequests.insert component (requested.insertAll overrides.entries) }

def emulate (component : Component) (version : Version) : Component :=
  { component with version := component.version.withEmulation version }

def overrideGate (component : Component) (overrides : Dict Bool) : Component :=
  { component with gate := component.gate.override overrides }

/-- The gate of a component is asked at the version that the component emulates. -/
def settleGate (component : Component) : Component :=
  { component with gate := component.gate.withEmulation component.version.emulation }

/-- The change is made in order, up to a component that is not registered. -/
def changeAll {Wanted : Type} (change : Component → Wanted → Component) :
    List (String × Wanted) → Dict Component → Except VersionError Unit × Dict Component
  | [], components => (.ok (), components)
  | (name, wanted) :: rest, components =>
      match components.get? name with
      | none => (.error (.unknownComponent name), components)
      | some component =>
          changeAll change rest (components.insert name (change component wanted))

/-- Each target takes the version that its source emulates by then, unless one was requested. -/
def applyMappings (requests : Dict Version) :
    List EmulationMapping → Dict Component → Except VersionError Unit × Dict Component
  | [], components => (.ok (), components)
  | mapping :: rest, components =>
      if requests.contains mapping.target then applyMappings requests rest components
      else
        match components.get? mapping.source with
        | none => (.error (.unknownComponent mapping.source), components)
        | some source =>
            match mapping.mapping source.version.emulation, components.get? mapping.target with
            | some mapped, some target =>
                applyMappings requests rest
                  (components.insert mapping.target (emulate target mapped))
            | _, _ => applyMappings requests rest components

/-- Requests take effect first, then mappings in their order, then gates. -/
def set (registry : Registry) : Except VersionError Unit × Registry :=
  if registry.applied then (.ok (), registry)
  else
    match changeAll emulate registry.emulationRequests.entries registry.components with
    | (.error error, components) => (.error error, { registry with components })
    | (.ok _, components) =>
        match changeAll overrideGate registry.gateRequests.entries components with
        | (.error error, components) => (.error error, { registry with components })
        | (.ok _, components) =>
            match applyMappings registry.emulationRequests registry.mappings components with
            | (.error error, components) => (.error error, { registry with components })
            | (.ok _, components) =>
                let components := components.map fun _ component => settleGate component
                (.ok (), { registry with components, applied := true })

/-- Every inconsistency, or nothing where the registry is valid. -/
def problems (registry : Registry) : List VersionError :=
  let unknown :=
    ((registry.emulationRequests.keys ++ registry.gateRequests.keys).filter
      fun component => !registry.isRegistered component).map .unknownComponent
  let conflicting :=
    (registry.mappings.filter
      fun mapping => registry.emulationRequests.contains mapping.target).map
      fun mapping => .conflictingRequest mapping.source mapping.target
  let components :=
    registry.components.entries.flatMap fun entry =>
      (entry.2.version.problem? entry.1).toList ++ entry.2.gate.problems entry.1
  unknown ++ conflicting ++ components

def debug (registry : Registry) : String :=
  Text.labelled "ComponentGlobalsRegistry"
    [("components", Text.bracketed (registry.components.keys.map Text.quoted)),
      ("mappings", Text.bracketed
        (registry.mappings.map fun mapping =>
          Text.quoted (mapping.source ++ "->" ++ mapping.target))),
      ("set_done", if registry.applied then "true" else "false")]

end Registry

end ResourceApi
