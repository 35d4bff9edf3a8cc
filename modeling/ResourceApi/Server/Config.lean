/-
This file defines the configuration of a server. It is open to changes until it is complete.
-/

import ResourceApi.Backend.Location
import ResourceApi.FeatureGate
import ResourceApi.StopSignal
import ResourceApi.Version.Effective

namespace ResourceApi

/-- This is the root of every key where none is chosen. -/
def defaultRoot : String := "/registry"

/-- This is the backend that a server brings along where none is given. -/
def BackendId.builtin : BackendId := ⟨0⟩

structure Config (State : Type) where
  component : String
  locate : Option Locator := none
  informer : Option (Informer State) := none
  version : Option EffectiveVersion := none
  gate : Option FeatureGate := none

structure CompletedConfig (State : Type) where
  component : String
  locate : Locator
  informer : Option (Informer State)
  version : Option EffectiveVersion
  gate : Option FeatureGate

/-- Without a locator, objects are kept in the built-in backend. -/
def Config.complete {State : Type} (config : Config State) : CompletedConfig State where
  component := config.component
  locate := config.locate.getD (SharedRoot.locate ⟨.builtin, defaultRoot⟩)
  informer := config.informer
  version := config.version
  gate := config.gate

end ResourceApi
