/-
This file defines servers: the groups installed in them, the hooks that run at their start, and
how they are started and run until they are asked to stop.
-/

import ResourceApi.Registry
import ResourceApi.Server.Config
import ResourceApi.Server.Group

namespace ResourceApi

/-- A hook runs after the start of a server and may make the start fail. -/
structure Hook (State : Type) where
  name : String
  action : Session State → Except BuildError Unit × Session State

structure Server (State : Type) where
  name : String
  config : CompletedConfig State
  groups : Dict ApiGroup := .empty
  hooks : List (Hook State) := []
  /-- No name is given to two hooks. -/
  distinct : (hooks.map Hook.name).Nodup := by simp
  started : Bool := false
  registry : Registry

namespace Server

variable {State : Type}

def new (name : String) (config : CompletedConfig State) (registry : Registry) : Server State :=
  { name, config, registry }

def install (server : Server State) (group : ApiGroup) : Except BuildError (Server State) :=
  if group.name = "" then .error .emptyGroupName
  else if server.groups.contains group.name then .error (.groupAlreadyInstalled group.name)
  else .ok { server with groups := server.groups.insert group.name group }

def group? (server : Server State) (name : String) : Option ApiGroup :=
  server.groups.get? name

/-- The endpoint that serves a resource, or a part of a resource after a slash. -/
def endpoint? (server : Server State) (group version resource : String) : Option Endpoint :=
  (server.groups.get? group).bind fun info => info.storage.find? version resource

def hookNames (server : Server State) : List String :=
  server.hooks.map Hook.name

theorem nodup_append {server : Server State} {hook : Hook State}
    (free : ¬ server.hookNames.contains hook.name) :
    ((server.hooks ++ [hook]).map Hook.name).Nodup := by
  have new : hook.name ∉ server.hookNames := by simpa using free
  rw [List.map_append, List.map_singleton, List.nodup_append]
  refine ⟨server.distinct, by simp, ?_⟩
  intro name known other same
  rw [List.mem_singleton.1 same]
  exact fun clash => new (clash ▸ known)

def addHook (server : Server State) (hook : Hook State) : Except BuildError (Server State) :=
  if taken : server.hookNames.contains hook.name then .error (.duplicatePostStartHook hook.name)
  else .ok { server with hooks := server.hooks ++ [hook], distinct := nodup_append taken }

/-- The hooks run in order, up to the first that fails. -/
def runHooks : List (Hook State) → Session State → Except BuildError Unit × Session State
  | [], session => (.ok (), session)
  | hook :: rest, session =>
      match hook.action session with
      | (.error error, session) => (.error error, session)
      | (.ok _, session) => runHooks rest session

/-- Only the first start runs the hooks. -/
def start (server : Server State) (session : Session State) :
    Except BuildError Unit × Server State × Session State :=
  if server.started then (.ok (), server, session)
  else
    let (result, session) := runHooks server.hooks session
    (result, { server with started := true }, session)

inductive Outcome where
  | failed (error : BuildError)
  | stopped
  /-- Nobody is going to ask the server to stop. -/
  | running

/-- The server is started and then waits until it is asked to stop. -/
def run (server : Server State) (session : Session State) :
    Outcome × Server State × Session State :=
  match server.start session with
  | (.error error, server, session) => (.failed error, server, session)
  | (.ok _, server, session) =>
      match session.stop.listen with
      | none => (.running, server, session)
      | some stop => (.stopped, server, { session with stop })

def debug (server : Server State) : String :=
  Text.labelled "ApiServer"
    [("name", Text.quoted server.name),
      ("groups", Text.bracketed (server.groups.keys.map Text.quoted)),
      ("post_start_hooks", Text.bracketed (server.hookNames.map Text.quoted)),
      ("started", if server.started then "true" else "false")]

end Server

end ResourceApi
