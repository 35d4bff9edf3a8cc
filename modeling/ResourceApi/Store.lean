/-
This file defines stores. A store keeps the objects of one kind in a backend and follows the
strategies of the kind at every write.
-/

import ResourceApi.Backend.Call
import ResourceApi.Backend.Location
import ResourceApi.BuildError
import ResourceApi.ListFilter
import ResourceApi.Store.Attributes
import ResourceApi.Strategy

namespace ResourceApi

structure Store (Spec Status : Type) where
  kind : Kind Spec Status
  resource : GroupResource
  strategy : Strategy Spec Status
  location : Location

/-- Names and namespaces become parts of keys between slashes. -/
def pathSegmentProblem? (segment : String) : Option String :=
  if segment = "." ∨ segment = ".." then some ("may not be '" ++ segment ++ "'")
  else if segment.toList.contains '/' then some "may not contain '/'"
  else if segment.toList.contains '%' then some "may not contain '%'"
  else none

namespace Store

variable {Spec Status : Type}

def new (kind : Kind Spec Status) (resource : GroupResource) (strategy : Strategy Spec Status)
    (locate : Locator) : Except BuildError (Store Spec Status) :=
  match locate resource with
  | .error cause => .error (.storeConstruction resource cause)
  | .ok location => .ok { kind, resource, strategy, location }

variable (store : Store Spec Status)

/-- A kind that chooses no singular name goes by its own name in lower case. -/
def singularName : String :=
  store.strategy.singularName?.getD store.kind.lowerName

def namespaced : Bool := store.strategy.namespaced

/-- This is the key of an object. Only namespaced objects have their namespace in it. -/
def key (space name : String) : String :=
  if store.namespaced then store.location.root ++ "/" ++ space ++ "/" ++ name
  else store.location.root ++ "/" ++ name

def invalid (name : String) (errors : List FieldError) : ApiError :=
  .invalid store.kind.name name errors

def checkSpace (space : String) : Except ApiError Unit :=
  match pathSegmentProblem? space with
  | some problem =>
      .error (.badRequest ("invalid namespace \"" ++ space ++ "\": " ++ problem))
  | none => .ok ()

def checkName (name : String) : Except ApiError Unit :=
  match pathSegmentProblem? name with
  | some problem =>
      .error (store.invalid name
        [FieldError.invalid (FieldPath.metadata "name") (.text name) problem])
  | none => .ok ()

def spaceMismatch (space requested : String) : ApiError :=
  .badRequest ("the namespace of the object (" ++ space ++
    ") does not match the namespace on the request (" ++ requested ++ ")")

/-- The namespaces of an object and of its request must agree, where both are given. -/
def resolveSpace (context : Context) (space : String) : Except ApiError String :=
  if store.namespaced then
    match context.space? with
    | some requested =>
        if space = "" then (checkSpace requested).map fun _ => requested
        else if requested = space then (checkSpace space).map fun _ => space
        else .error (spaceMismatch space requested)
    | none =>
        if space = "" then
          .error (.badRequest ("namespace is required for " ++ store.resource.display))
        else (checkSpace space).map fun _ => space
  else if space = "" then .ok ""
  else
    .error (.badRequest (store.resource.display ++ " is cluster scoped, namespace \"" ++ space
      ++ "\" is not allowed"))

def addressKey (context : Context) (address : Address) : Except ApiError String :=
  if address.name = "" then
    .error (.badRequest ("name is required to address " ++ store.resource.display))
  else
    match store.checkName address.name with
    | .error error => .error error
    | .ok _ =>
        (store.resolveSpace context address.space).map fun space => store.key space address.name

/-- An error of the backend becomes an error about the named object. -/
def backendError (name : String) : BackendError → ApiError
  | .notFound _ => .notFound store.resource name
  | .alreadyExists _ => .alreadyExists store.resource name
  | .conflict .. => .outdated store.resource name
  | cause => .storage cause

def read (document : Json) : Except ApiError (Object Spec Status) :=
  match Object.read store.kind document with
  | some object => .ok object
  | none => .error .json

/-- The answer of the backend about a named object, as an object. -/
def readReply (name : String) : Except BackendError Json → Except ApiError (Object Spec Status)
  | .error cause => .error (store.backendError name cause)
  | .ok document => store.read document

def get (context : Context) (address : Address) :
    Request (Except ApiError (Object Spec Status)) :=
  match store.addressKey context address with
  | .error error => .done (.error error)
  | .ok key => .call (.get key) fun reply => .done (store.readReply address.name reply)

/-- A deleted document is gone even where it cannot be read as an object. -/
def delete (context : Context) (address : Address) :
    Request (Except ApiError (Object Spec Status)) :=
  match store.addressKey context address with
  | .error error => .done (.error error)
  | .ok key => .call (.delete key) fun reply => .done (store.readReply address.name reply)

/-- Documents beyond the room that is left are not looked at. -/
def select (predicate : Predicate) :
    Option Nat → List Json → Except ApiError (List (Object Spec Status))
  | _, [] => .ok []
  | some 0, _ :: _ => .ok []
  | room, document :: rest =>
      match Attributes.ofDocument document store.namespaced with
      | .error error => .error error
      | .ok attributes =>
          if predicate.holds attributes.labels attributes.fields then
            match store.read document with
            | .error error => .error error
            | .ok object => (select predicate (room.map (· - 1)) rest).map (object :: ·)
          else select predicate room rest

/-- Zero means that there is room for all. -/
def room (filter : ListFilter) : Option Nat :=
  (filter.limit.filter (· ≠ 0)).map UInt32.toNat

def listRoot (scope : ListScope) : Except ApiError String :=
  match scope with
  | .all => .ok (store.location.root ++ "/")
  | .named space =>
      if store.namespaced then
        (checkSpace space).map fun _ => store.location.root ++ "/" ++ space ++ "/"
      else .ok (store.location.root ++ "/")

def listed (predicate : Predicate) (filter : ListFilter) :
    Except BackendError Listing → Except ApiError (ObjectList Spec Status)
  | .error cause => .error (.storage cause)
  | .ok listing =>
      (store.select predicate (room filter) listing.items).map fun items =>
        { ObjectList.empty store.kind with metadata := ⟨listing.revision⟩, items }

def list (scope : ListScope) (filter : ListFilter) :
    Request (Except ApiError (ObjectList Spec Status)) :=
  match Predicate.ofFilter filter with
  | .error cause => .done (.error (.selector cause))
  | .ok predicate =>
      match store.listRoot scope with
      | .error error => .done (.error error)
      | .ok root => .call (.list root) fun reply => .done (store.listed predicate filter reply)

/-- An object without a name gets one from the start of a name. -/
def nameNew (object : Object Spec Status) : Object Spec Status :=
  if object.metadata.name = "" ∧ object.metadata.generateName ≠ "" then
    object.withName (store.strategy.generateName object.metadata.generateName)
  else object

def missingName (detail : String) : ApiError :=
  store.invalid "" [FieldError.required (FieldPath.metadata "name") detail]

/-- This is the object that passes every check of a new one. -/
def accept (context : Context) (object : Object Spec Status) :
    Except ApiError (Object Spec Status) :=
  match store.resolveSpace context object.metadata.space with
  | .error error => .error error
  | .ok space =>
      if object.metadata.resourceVersion ≠ "" then
        .error (.badRequest "resourceVersion should not be set on objects to be created")
      else
        let prepared := store.strategy.prepareForCreate context (object.withSpace space)
        let named := store.nameNew prepared
        if named.metadata.name = "" then
          .error (store.missingName "name or generateName is required")
        else
          match store.checkName named.metadata.name with
          | .error error => .error error
          | .ok _ =>
              let known := named.withKind store.kind
              let errors := store.strategy.validate context known
              if errors.isEmpty then .ok (store.strategy.canonicalize known)
              else .error (store.invalid known.metadata.name errors)

def objectKey (object : Object Spec Status) : String :=
  store.key object.metadata.space object.metadata.name

def create (context : Context) (object : Object Spec Status) :
    Request (Except ApiError (Object Spec Status)) :=
  match store.accept context object with
  | .error error => .done (.error error)
  | .ok admitted =>
      .call (.create (store.objectKey admitted) (Object.write store.kind admitted)) fun reply =>
        .done (store.readReply admitted.metadata.name reply)

/-- The object in its namespace, where it can be looked for. -/
def target (context : Context) (object : Object Spec Status) :
    Except ApiError (Object Spec Status) :=
  match store.resolveSpace context object.metadata.space with
  | .error error => .error error
  | .ok space =>
      if object.metadata.name = "" then .error (store.missingName "name is required")
      else (store.checkName object.metadata.name).map fun _ => object.withSpace space

/-- The version that a replacement names, or the stored one where it may name none. -/
def replacedVersion (strategy : UpdateStrategy Spec Status)
    (object stored : Object Spec Status) : Except ApiError String :=
  if object.metadata.resourceVersion = "" then
    if strategy.allowUnconditionalUpdate then .ok stored.metadata.resourceVersion
    else
      .error (store.invalid object.metadata.name
        [FieldError.invalid (FieldPath.metadata "resourceVersion") (.text "")
          "must be specified for an update"])
  else if object.metadata.resourceVersion = stored.metadata.resourceVersion then
    .ok object.metadata.resourceVersion
  else .error (.outdated store.resource object.metadata.name)

/-- The object that takes the place of the stored one, and the version that it replaces. -/
def replacement (strategy : UpdateStrategy Spec Status) (context : Context)
    (object stored : Object Spec Status) : Except ApiError (String × Object Spec Status) :=
  match store.replacedVersion strategy object stored with
  | .error error => .error error
  | .ok version =>
      let known := (object.withVersion version).withKind store.kind
      let prepared := strategy.prepare context known stored
      let errors := strategy.validate context prepared stored
      if errors.isEmpty then .ok (version, strategy.canonicalize prepared)
      else .error (store.invalid prepared.metadata.name errors)

/-- The stored object is replaced if its version is still the one that was seen. -/
def replace (strategy : UpdateStrategy Spec Status) (context : Context) (key : String)
    (object : Object Spec Status) (document : Json) :
    Request (Except ApiError (Object Spec Status)) :=
  match store.read document with
  | .error error => .done (.error error)
  | .ok stored =>
      match store.replacement strategy context object stored with
      | .error error => .done (.error error)
      | .ok (version, replacing) =>
          .call (.update key (some version) (Object.write store.kind replacing)) fun reply =>
            .done (store.readReply replacing.metadata.name reply)

/-- An object that is not there is created where the strategy allows it. -/
def updateWith (strategy : UpdateStrategy Spec Status) (context : Context)
    (object : Object Spec Status) : Request (Except ApiError (Object Spec Status)) :=
  match store.target context object with
  | .error error => .done (.error error)
  | .ok object =>
      let key := store.objectKey object
      .call (.get key) fun reply =>
        match reply with
        | .ok document => store.replace strategy context key object document
        | .error cause =>
            if cause.isNotFound ∧ strategy.allowCreateOnUpdate then
              store.create context (object.withVersion "")
            else .done (.error (store.backendError object.metadata.name cause))

def update (context : Context) (object : Object Spec Status) :
    Request (Except ApiError (Object Spec Status)) :=
  store.updateWith store.strategy.update context object

def debug : String :=
  Text.labelled "Store"
    [("group_resource", store.resource.debug),
      ("singular_name", Text.quoted store.singularName),
      ("namespace_scoped", if store.namespaced then "true" else "false"),
      ("resource_prefix", Text.quoted store.location.root)]

end Store

end ResourceApi
