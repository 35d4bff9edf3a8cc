/-
This file defines workbenches. A workbench keeps what a server leaves behind when it is tried out:
the backends behind its endpoints, the lines that its hooks write, and counts for its informers.
-/

import ResourceApi.Catalog.Plain
import ResourceApi.Server

namespace ResourceApi

/-- An informer is started so often, and so often after the stop. -/
structure Starts where
  all : Nat := 0
  afterStop : Nat := 0
  deriving DecidableEq, Inhabited

structure Workbench where
  /-- A backend stands at the place that is its number. -/
  backends : List Backend := [.empty]
  log : List String := []
  informers : List Starts := []

namespace Workbench

instance : Inhabited Workbench := ⟨{}⟩

def addBackend (workbench : Workbench) : BackendId × Workbench :=
  (⟨workbench.backends.length⟩, { workbench with backends := workbench.backends ++ [.empty] })

def backend (workbench : Workbench) (id : BackendId) : Backend :=
  workbench.backends.getD id.number .empty

/-- The request runs alone on the backend of the endpoint. -/
def run {Answer : Type} (workbench : Workbench) (endpoint : Endpoint) (request : Request Answer) :
    Answer × Workbench :=
  let id := endpoint.location.backend
  let (answer, backend) := request.run (workbench.backend id)
  (answer, { workbench with backends := workbench.backends.set id.number backend })

/-- A locator for a backend of its own. -/
def addLocator (workbench : Workbench) (root : String) : Locator × Workbench :=
  let (backend, workbench) := workbench.addBackend
  (SharedRoot.locate ⟨backend, root⟩, workbench)

/-- An endpoint with a backend of its own, for a resource of the given name. -/
def addEndpoint (workbench : Workbench) (resource : String) :
    Except BuildError (Endpoint × Workbench) :=
  let (locate, workbench) := workbench.addLocator defaultRoot
  let kind := Catalog.bar
  let strategy := Strategy.ofKind kind .none
  (Store.new kind (kind.groupVersion.withResource resource) strategy locate).map fun store =>
    ({ store.endpoint with id.place := workbench.backends.length }, workbench)

/-- What an informer does besides counting its starts. -/
inductive Behaviour where
  | count
  | notify
  | delayed

def Behaviour.ofName? : String → Option Behaviour
  | "count" => some .count
  | "notify" => some .notify
  | "delayed" => some .delayed
  | _ => none

def Behaviour.signal : Behaviour → StopSignal → StopSignal
  | .count => id
  | .notify => StopSignal.notify
  | .delayed => StopSignal.announce

def countStart (stopped : Bool) (starts : Starts) : Starts where
  all := starts.all + 1
  afterStop := if stopped then starts.afterStop + 1 else starts.afterStop

def addInformer (workbench : Workbench) (behaviour : Behaviour) : Informer Workbench × Workbench :=
  let place := workbench.informers.length
  let informer : Informer Workbench := fun session =>
    let informers := session.state.informers.modify place (countStart session.stop.isSet)
    { stop := behaviour.signal session.stop, state := { session.state with informers } }
  (informer, { workbench with informers := workbench.informers ++ [{}] })

/-- The hook writes one line, and fails where it has a reason for that. -/
def hook (name : String) (reason : Option String) : Hook Workbench where
  name := name
  action := fun session =>
    let line := name ++ " " ++ (if session.stop.isSet then "true" else "false")
    let session := { session with state.log := session.state.log ++ [line] }
    match reason with
    | none => (.ok (), session)
    | some reason => (.error (.postStartHook name reason), session)

end Workbench

end ResourceApi
