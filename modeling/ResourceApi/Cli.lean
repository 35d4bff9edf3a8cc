/-
This file defines the command line of a demonstration server. The server is assembled from two
kinds and from a file with options. Either it serves, or every kind is tried out once.
-/

import ResourceApi.Builder
import ResourceApi.Catalog.Plain
import ResourceApi.Options.Document

namespace ResourceApi.Cli

/-- The first argument may ask for a server, and the next names a file. -/
structure Command where
  serves : Bool
  path : Option String
  deriving DecidableEq

def Command.ofArguments : List String → Command
  | "serve" :: rest => ⟨true, rest.head?⟩
  | arguments => ⟨false, arguments.head?⟩

inductive Failure where
  | options (cause : OptionsError)
  | build (cause : BuildError)
  | request (cause : ApiError)
  | notServed (resource : String)

def Failure.message : Failure → String
  | .options cause => cause.message
  | .build cause => cause.message
  | .request cause => cause.message
  | .notServed resource => resource ++ " is not served"

def componentName : String := "foo"

def groupVersion : GroupVersion := ⟨Catalog.sampleGroup, "v1alpha1"⟩

/-- A kind of the catalogue at the version that is served. -/
def served (kind : Kind Catalog.MessageSpec Catalog.NoStatus) :
    Kind Catalog.MessageSpec Catalog.NoStatus :=
  { kind with version := groupVersion.version }

def handler (kind : Kind Catalog.MessageSpec Catalog.NoStatus) :
    Except Failure (Handler Unit) :=
  (Handler.ofKind (served kind) .none [groupVersion]).mapError .build

/-- The text of a file, or why there is none. -/
abbrev Files := String → Except OptionsError String

def readOptions (files : Files) (path : String) : Except Failure Options :=
  ((files path).bind Options.ofDocument).mapError .options

def builder (files : Files) (path : Option String) : Except Failure (Builder Unit) := do
  let named : Builder Unit := { component := componentName }
  let withBars := named.withHandler (← handler Catalog.bar)
  let builder := withBars.withHandler (← handler Catalog.clusterBar)
  return { builder with options := ← path.mapM (readOptions files) }

/-- The text of a member of an object's metadata, or nothing. -/
def metadataText (object : Json) (name : String) : String :=
  match (object.field? "metadata").bind (Json.field? name) with
  | some (.text content) => content
  | _ => ""

/-- An object is created, read and deleted again. -/
def tryOut (endpoint : Endpoint) (metadata : Json) (backend : Backend) :
    Except ApiError Unit × Backend :=
  let object := Json.object
    [("metadata", metadata), ("spec", .object [("message", .text "hello")])]
  match (endpoint.create {} object).run backend with
  | (.error error, backend) => (.error error, backend)
  | (.ok created, backend) =>
      let address := ⟨metadataText created "name", metadataText created "namespace"⟩
      match (endpoint.get {} address).run backend with
      | (.error error, backend) => (.error error, backend)
      | (.ok _, backend) =>
          let (deleted, backend) := (endpoint.delete {} address).run backend
          (deleted.map fun _ => (), backend)

/-- The resources that are tried out, with the metadata of their objects. -/
def trials : List (String × Json) :=
  [("bars", .object [("namespace", .text "default"), ("generateName", .text "test-")]),
    ("clusterbars", .object [("generateName", .text "test-")])]

def tryAll (server : Server Unit) : List (String × Json) → Backend → Except Failure Unit
  | [], _ => .ok ()
  | (resource, metadata) :: rest, backend =>
      match server.endpoint? groupVersion.group groupVersion.version resource with
      | none => .error (.notServed resource)
      | some endpoint =>
          match tryOut endpoint metadata backend with
          | (.error error, _) => .error (.request error)
          | (.ok _, backend) => tryAll server rest backend

/-- The server is started before the kinds are tried out. -/
def demonstrate (builder : Builder Unit) : Except Failure Unit := do
  let server ← (builder.build ()).1.mapError .build
  let (result, server, _) := server.start ⟨.clear, ()⟩
  let _ ← result.mapError .build
  tryAll server trials .empty

/-- A command ends with an exit code and maybe a message, or never. -/
inductive Ending where
  | exit (code : Nat) (message : Option String)
  | serving
  deriving DecidableEq

def Ending.failed (failure : Failure) : Ending := .exit 1 (some failure.message)

/-- A server that cannot be assembled says nothing but its exit code. -/
def serve (builder : Builder Unit) : Ending :=
  match (builder.execute ⟨.clear, ()⟩).1 with
  | .failed _ => .exit 1 none
  | .stopped => .exit 0 none
  | .running => .serving

def Command.run (command : Command) (files : Files) : Ending :=
  match builder files command.path with
  | .error failure => .failed failure
  | .ok builder =>
      if command.serves then serve builder
      else
        match demonstrate builder with
        | .error failure => .failed failure
        | .ok _ => .exit 0 none

end ResourceApi.Cli
