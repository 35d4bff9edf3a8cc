/-
This file assembles servers. A builder collects registrations and settings. It checks that all
group versions belong to one group, settles the versions of the components, joins what was
contributed to each group and adds the hook that starts the informers.
-/

import ResourceApi.Handler
import ResourceApi.Options

namespace ResourceApi

/-- A change to the configuration may also work on the shared state. -/
abbrev ConfigChange (State : Type) := Config State → State → Config State × State

structure Builder (State : Type) where
  component : String := ""
  componentVersion : Option String := none
  kubeVersion : Option String := none
  groupVersions : List GroupVersion := []
  contributions : List (Contribution State) := []
  informers : List (Informer State) := []
  options : Option Options := none
  changes : List (ConfigChange State) := []
  backend : Option BackendId := none
  registry : Option Registry := none
  skipsSet : Bool := false
  features : FeatureSpecs := .empty

namespace Builder

variable {State : Type}

/-- Every server depends on this component. -/
def kubeComponent : String := "kube"

def defaultKubeVersion : String := "1.34"

def defaultComponentVersion : String := "1.2"

def withGroupVersions (builder : Builder State) (groupVersions : List GroupVersion) :
    Builder State :=
  { builder with groupVersions := builder.groupVersions ++ groupVersions }

def withContribution (builder : Builder State) (contribution : Contribution State) :
    Builder State :=
  { builder with contributions := builder.contributions ++ [contribution] }

def withHandler (builder : Builder State) (handler : Handler State) : Builder State :=
  (builder.withContribution handler.contribute).withGroupVersions handler.groupVersions

def withInformer (builder : Builder State) (informer : Informer State) : Builder State :=
  { builder with informers := builder.informers ++ [informer] }

def withChange (builder : Builder State) (change : ConfigChange State) : Builder State :=
  { builder with changes := builder.changes ++ [change] }

/-- The specifications of a feature take the place of those given before. -/
def withFeatures (builder : Builder State) (features : FeatureSpecs) : Builder State :=
  { builder with features := builder.features.insertAll features.entries }

def checkGroups (expected : String) : List GroupVersion → Except BuildError String
  | [] => .ok expected
  | groupVersion :: rest =>
      if groupVersion.group = "" then .error .emptyGroupName
      else if groupVersion.group = expected then checkGroups expected rest
      else .error (.groupMismatch expected groupVersion.group)

/-- This is the group of all registrations, or the empty text without any. -/
def groupName (builder : Builder State) : Except BuildError String :=
  match builder.groupVersions with
  | [] => .ok ""
  | first :: rest =>
      if first.group = "" then .error .emptyGroupName else checkGroups first.group rest

/-- The group versions in the order of registration, each once. -/
def orderedGroupVersions (builder : Builder State) : List GroupVersion :=
  builder.groupVersions.foldl ApiGroup.addNew []

/-- The component is named by the builder, or else by the options. -/
def settledOptions (builder : Builder State) (groupName : String) : Options :=
  let options := builder.options.getD (Options.new (defaultRoot ++ "/" ++ groupName) [])
  { options with
    componentName := if builder.component = "" then options.componentName else builder.component
    storage.encodeVersions := builder.orderedGroupVersions.map GroupVersion.display }

/-- The component and the one it depends on are registered, and the second follows. -/
def registerComponents (builder : Builder State) (component : String) (registry : Registry) :
    Except VersionError Registry :=
  match Version.parse (builder.componentVersion.getD defaultComponentVersion) with
  | .error error => .error error
  | .ok componentVersion =>
      match Version.parse (builder.kubeVersion.getD defaultKubeVersion) with
      | .error error => .error error
      | .ok kubeVersion =>
          let gate := FeatureGate.empty.addVersioned builder.features
          let registry :=
            registry.registerOrKeep component ⟨EffectiveVersion.new componentVersion, gate⟩
          let registry :=
            registry.registerOrKeep kubeComponent ⟨EffectiveVersion.new kubeVersion, .empty⟩
          registry.map component kubeComponent
            (dependentVersionMapping componentVersion.majorMinor kubeVersion.majorMinor)

/-- A version that cannot be parsed is reported with the problems of the options. -/
def requestEmulation (options : Options) (registry : Registry) : Registry :=
  match options.emulatedVersion.map Version.parse with
  | some (.ok version) => registry.requestEmulation options.componentName version
  | _ => registry

def requestGates (options : Options) (registry : Registry) : Registry :=
  if options.featureGates.isEmpty then registry
  else registry.requestGates options.componentName options.featureGates

/-- The registry with everything declared in it, and set unless that is to be skipped. -/
def settledRegistry (builder : Builder State) (options : Options) :
    Except BuildError Registry :=
  let initial := builder.registry.getD .empty
  match builder.registerComponents options.componentName initial with
  | .error error => .error (.version error)
  | .ok registry =>
      let requested := requestGates options (requestEmulation options registry)
      if builder.skipsSet then .ok requested
      else
        match requested.set with
        | (.error error, _) => .error (.version error)
        | (.ok _, registry) => .ok registry

def problems (options : Options) (registry : Registry) : List String :=
  options.problems.map OptionsError.message ++ registry.problems.map VersionError.message

/-- The changes are made one after the other. -/
def applyChanges : List (ConfigChange State) → Config State → State → Config State × State
  | [], config, state => (config, state)
  | change :: rest, config, state =>
      let (config, state) := change config state
      applyChanges rest config state

/-- No change of the configuration reaches the versions, but a new locator stays. -/
def settledConfig (builder : Builder State) (options : Options) (registry : Registry)
    (config : Config State) : Config State :=
  { config with
    gate := registry.gate? kubeComponent
    version := registry.version? options.componentName
    locate :=
      some <| config.locate.getD <|
        SharedRoot.locate ⟨builder.backend.getD .builtin, options.storage.root⟩ }

/-- Each contribution joins the group that it belongs to. -/
def joinContributions (config : CompletedConfig State) :
    Nat → List (Contribution State) → Dict ApiGroup → Except BuildError (Dict ApiGroup)
  | _, [], groups => .ok groups
  | number, contribution :: rest, groups =>
      match contribution config with
      | .error error => .error error
      | .ok group =>
          let group := group.contributedBy number
          if group.home = "" then .error .emptyGroupName
          else
            match groups.get? group.home with
            | none => joinContributions config (number + 1) rest (groups.insert group.home group)
            | some previous =>
                match previous.join group with
                | .error error => .error error
                | .ok joined =>
                    joinContributions config (number + 1) rest (groups.insert group.home joined)

def installAll :
    List ApiGroup → Server State → Except BuildError (Server State)
  | [], server => .ok server
  | group :: rest, server =>
      match server.install group with
      | .error error => .error error
      | .ok server => installAll rest server

/-- The informer of the configuration is started first, then those of the builder. -/
def informerHook (builder : Builder State) (component : String)
    (configured : Option (Informer State)) : Hook State where
  name := "start-" ++ component ++ "-server-informers"
  action := fun session =>
    (.ok (), (configured.toList ++ builder.informers).foldl (fun session start => start session)
      session)

def assemble (builder : Builder State) (options : Options) (registry : Registry)
    (config : Config State) : Except BuildError (Server State) :=
  let settled := builder.settledConfig options registry config
  let server := Server.new (options.componentName ++ "-apiserver") settled.complete registry
  match joinContributions server.config 0 builder.contributions .empty with
  | .error error => .error error
  | .ok groups =>
      match installAll groups.values server with
      | .error error => .error error
      | .ok server => server.addHook (builder.informerHook options.componentName settled.informer)

/-- Every problem of the configuration is found before the configuration is changed or anything
is served. -/
def prepare (builder : Builder State) : Except BuildError (Options × Registry) :=
  match builder.groupName with
  | .error error => .error error
  | .ok groupName =>
      let options := builder.settledOptions groupName
      match builder.settledRegistry options with
      | .error error => .error error
      | .ok registry =>
          if builder.orderedGroupVersions.isEmpty then
            .error (.noGroupVersions options.componentName)
          else
            let problems := problems options registry
            if problems.isEmpty then .ok (options, registry) else .error (.invalid problems)

def build (builder : Builder State) (state : State) :
    Except BuildError (Server State) × State :=
  match builder.prepare with
  | .error error => (.error error, state)
  | .ok (options, registry) =>
      let initial : Config State := { component := options.componentName }
      let (config, state) := applyChanges builder.changes initial state
      (builder.assemble options registry config, state)

/-- The server is built and runs until it is asked to stop. -/
def execute (builder : Builder State) (session : Session State) :
    Server.Outcome × Session State :=
  match builder.build session.state with
  | (.error error, state) => (.failed error, { session with state })
  | (.ok server, state) =>
      let (outcome, _, session) := server.run { session with state }
      (outcome, session)

end Builder

end ResourceApi
