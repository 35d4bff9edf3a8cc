/-
This file reports as JSON what a kind is and what its strategies make of an object.
-/

import ResourceApi.Report.State

namespace ResourceApi.Report

variable {Spec Status : Type}

def capabilityNames (table : Capabilities Spec Status) : Json :=
  Json.texts (table.enabled.map Capability.name)

def kind (kind : Kind Spec Status) (table : Capabilities Spec Status) : Json :=
  let emptyList := ObjectList.write kind (ObjectList.empty kind)
  .object [("apiVersion", .text kind.apiVersion), ("kind", .text kind.name),
    ("label", .text kind.name), ("groupResource", .text kind.groupResource.display),
    ("groupVersion", .text kind.groupVersion.display), ("namespaced", .bool kind.namespaced),
    ("capabilities", capabilityNames table), ("hasStatus", .bool table.hasStatus),
    ("newObject", Object.write kind (Object.empty kind)), ("newList", emptyList),
    ("defaultList", emptyList)]

def capabilities (kind : Kind Spec Status) (table : Capabilities Spec Status) : Json :=
  .object [("enabled", capabilityNames table), ("hasStatus", .bool table.hasStatus),
    ("debug", .text table.debug), ("strategy", .text (Strategy.ofKind kind table).debug)]

def table (result : Except ApiError (Option Table)) : Json :=
  match result with
  | .ok table => Json.ofOption Table.write table
  | .error error => apiError error

/-- This is what the hooks make of new and of changed objects. -/
def strategy (kind : Kind Spec Status) (strategy : Strategy Spec Status)
    (update : UpdateStrategy Spec Status) (context : Context) (bases : List String)
    (object stored : Object Spec Status) : Json :=
  let write := Object.write kind
  let created := strategy.prepareForCreate context object
  let updated := update.prepare context object stored
  .object [("created", write created),
    ("invalid", fieldErrors (strategy.validate context created)),
    ("canonical", write (strategy.canonicalize created)),
    ("names", Json.texts (bases.map strategy.generateName)),
    ("table", table (strategy.convertToTable context [object, stored])),
    ("updated", write updated),
    ("updateInvalid", fieldErrors (update.validate context updated stored)),
    ("updateCanonical", write (update.canonicalize updated)),
    ("allowCreateOnUpdate", .bool update.allowCreateOnUpdate),
    ("allowUnconditionalUpdate", .bool update.allowUnconditionalUpdate),
    ("namespaced", .list [.bool strategy.namespaced, .bool update.namespaced]),
    ("shortNames", Json.texts strategy.shortNames),
    ("singularName", Json.ofOption .text strategy.singularName?), ("debug", .text update.debug)]

end ResourceApi.Report
