/-
This file defines endpoints: the JSON view of a store, whatever the kind of its objects.
-/

import ResourceApi.Store

namespace ResourceApi

/-- Endpoints are told apart by who contributed them and in which place. -/
structure EndpointId where
  contribution : Nat := 0
  place : Nat := 0
  deriving DecidableEq, Inhabited

structure Endpoint where
  id : EndpointId := {}
  resource : GroupResource
  kind : String
  singularName : String
  namespaced : Bool
  /-- These are further names under which the resource is served. -/
  shortNames : List String
  location : Location
  newObject : Json
  newList : Json
  get : Context → Address → Request (Except ApiError Json)
  list : ListScope → ListFilter → Request (Except ApiError Json)
  create : Context → Json → Request (Except ApiError Json)
  update : Context → Json → Request (Except ApiError Json)
  delete : Context → Address → Request (Except ApiError Json)
  convertToTable : Context → List Json → Except ApiError (Option Table)
  debug : String

namespace Store

variable {Spec Status : Type} (store : Store Spec Status)

def written (answer : Except ApiError (Object Spec Status)) : Except ApiError Json :=
  answer.map (Object.write store.kind)

/-- The request for the object that a document holds, as a request for a document. -/
def overDocument
    (request : Object Spec Status → Request (Except ApiError (Object Spec Status)))
    (document : Json) : Request (Except ApiError Json) :=
  match store.read document with
  | .error error => .done (.error error)
  | .ok object => (request object).map store.written

def readDocuments : List Json → Except ApiError (List (Object Spec Status))
  | [] => .ok []
  | document :: rest =>
      match store.read document with
      | .error error => .error error
      | .ok object => (readDocuments rest).map (object :: ·)

def table (context : Context) (documents : List Json) : Except ApiError (Option Table) :=
  match store.readDocuments documents with
  | .error error => .error error
  | .ok objects => store.strategy.convertToTable context objects

/-- This is the endpoint of the store where only the update is left open. -/
def endpointWith (shortNames : List String) (debug : String)
    (update : Context → Object Spec Status → Request (Except ApiError (Object Spec Status))) :
    Endpoint where
  resource := store.resource
  kind := store.kind.name
  singularName := store.singularName
  namespaced := store.namespaced
  shortNames := shortNames
  location := store.location
  newObject := (Object.empty store.kind).write store.kind
  newList := (ObjectList.empty store.kind).write store.kind
  get := fun context address => (store.get context address).map store.written
  list := fun scope filter =>
    (store.list scope filter).map fun answer => answer.map (ObjectList.write store.kind)
  create := fun context => store.overDocument (store.create context)
  update := fun context => store.overDocument (update context)
  delete := fun context address => (store.delete context address).map store.written
  convertToTable := store.table
  debug := debug

/-- The main endpoint of a kind reports the short names of the kind. -/
def endpoint : Endpoint :=
  let shortNames := store.strategy.shortNames
  let debug :=
    if shortNames.isEmpty then store.debug
    else
      Text.labelled "ShortNamesStorage"
        [("inner", store.debug),
          ("short_names", Text.bracketed (shortNames.map Text.quoted))]
  store.endpointWith shortNames debug store.update

/-- This is the update strategy of the status endpoint, where the kind has a status. -/
def statusStrategy? : Option (UpdateStrategy Spec Status) :=
  store.strategy.capabilities.copyStatus.map store.strategy.update.ofStatus

/-- An endpoint that differs from the main one in its update strategy only. -/
def strategyEndpoint (strategy : UpdateStrategy Spec Status) : Endpoint :=
  store.endpointWith []
    (Text.labelled "StatusStore"
      [("store", store.debug), ("update_strategy", strategy.debug)])
    (store.updateWith strategy)

def statusEndpoint? : Option Endpoint :=
  store.statusStrategy?.map store.strategyEndpoint

end Store

end ResourceApi
