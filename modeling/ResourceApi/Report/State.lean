/-
This file reports states as JSON: those of a registry, of a backend, of an endpoint and of a
server.
-/

import ResourceApi.Report.Failure
import ResourceApi.Server

namespace ResourceApi.Report

def order (first second : Version) : String :=
  if first < second then "Less" else if second < first then "Greater" else "Equal"

/-- A version with its neighbours at the given offsets, and how it compares to others. -/
def version (version : Version) (offsets : List Int64) (others : List Version) : Json :=
  match offsets.mapM version.offsetMinor with
  | .error .overflow => failure "Panic"
  | .ok moved =>
      .object [("major", Json.ofUInt32 version.major), ("minor", Json.ofUInt32 version.minor),
        ("patch", Json.ofUInt32 version.patch), ("display", .text version.display),
        ("majorMinor", .text version.majorMinor.display),
        ("offsets", Json.texts (moved.map Version.display)),
        ("compare", Json.texts (others.map (order version)))]

def effectiveVersion (version : EffectiveVersion) : Json :=
  .object [("binary", .text version.binary.display), ("emulation", .text version.emulation.display),
    ("minCompatibility", .text version.minCompatibility.display)]

/-- All known features are reported, enabled or not. -/
def gate (gate : FeatureGate) : Json :=
  .object [("emulation", Json.ofOption .text (gate.emulation.map Version.display)),
    ("known", Json.texts gate.known.keys),
    ("enabled", Json.ofDict .bool (gate.known.map fun feature _ => gate.isEnabled feature))]

def component (component : Component) : Json :=
  .object [("version", effectiveVersion component.version), ("gate", gate component.gate)]

def registry (registry : Registry) : Json := Json.ofDict component registry.components

def fieldError (error : FieldError) : Json :=
  .object [("type", .text error.type.message), ("field", .text error.field.written),
    ("badValue", error.badValue.getD .null), ("detail", .text error.detail),
    ("text", .text error.message)]

def fieldErrors (errors : List FieldError) : Json :=
  .object [("errors", .list (errors.map fieldError)),
    ("summary", .text (FieldError.summary errors))]

def listing (listing : Listing) : Json :=
  .object [("items", .list listing.items), ("revision", .text listing.revision)]

def endpoint (endpoint : Endpoint) : Json :=
  .object [("groupResource", .text endpoint.resource.display), ("kind", .text endpoint.kind),
    ("singularName", .text endpoint.singularName), ("namespaced", .bool endpoint.namespaced),
    ("shortNames", Json.texts endpoint.shortNames),
    ("resourcePrefix", .text endpoint.location.root)]

/-- Every endpoint is reported by the name of its own resource. -/
def storage (storage : StorageMap Endpoint) : Json :=
  Json.ofDict (Json.ofDict fun endpoint => .text endpoint.resource.resource) storage

def groupVersions (groupVersions : List GroupVersion) : Json :=
  Json.texts (groupVersions.map GroupVersion.display)

def group (group : ApiGroup) : Json :=
  .object [("group", .text group.name), ("versions", groupVersions group.versions),
    ("storage", storage group.storage)]

def server {State : Type} (server : Server State) : Json :=
  .object [("name", .text server.name), ("groups", Json.ofDict group server.groups),
    ("hooks", Json.texts server.hookNames), ("started", .bool server.started)]

def location : Except BackendError Location → Json
  | .ok location => .text location.root
  | .error error => backendError error

/-- The root at which a locator puts a resource shows where it leads to. -/
def config {State : Type} (config : CompletedConfig State) : Json :=
  .object [("component", .text config.component),
    ("version", Json.ofOption effectiveVersion config.version),
    ("gate", Json.ofOption gate config.gate), ("informers", .bool config.informer.isSome),
    ("things", location (config.locate ⟨"g", "things"⟩))]

end ResourceApi.Report
