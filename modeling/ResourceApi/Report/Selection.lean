/-
This file reports as JSON what selectors demand and which sets they select.
-/

import ResourceApi.ListFilter
import ResourceApi.Report.Failure

namespace ResourceApi.Report

def requirementKind : Requirement → String
  | .equals .. => "Equals"
  | .differs .. => "NotEquals"
  | .present _ => "Exists"
  | .absent _ => "DoesNotExist"

def requirement (requirement : Requirement) : Json :=
  .list [.text (requirementKind requirement), .text requirement.key,
    Json.ofOption .text requirement.value?, .text requirement.display]

/-- Whether the displayed selector is read as the same selector again. -/
def reparsed (selector : Selector) : Json :=
  match Selector.parse selector.display with
  | .ok again => .bool (again = selector)
  | .error error => selectorError error

def selector (selector : Selector) (sets : List (Dict String)) : Json :=
  .object [("requirements", .list (selector.requirements.map requirement)),
    ("display", .text selector.display), ("empty", .bool selector.isEmpty),
    ("matches", .list (sets.map fun set => .bool (selector.holds set))),
    ("reparsed", reparsed selector)]

def predicate (predicate : Predicate) (objects : List (Dict String × Dict String)) : Json :=
  .object [("everything", .bool predicate.isEverything),
    ("label", .text predicate.label.display), ("field", .text predicate.field.display),
    ("matches", .list (objects.map fun (labels, fields) => .bool (predicate.holds labels fields)))]

def filter (filter : ListFilter) : Json :=
  .list [Json.ofOption .text filter.labelSelector, Json.ofOption .text filter.fieldSelector,
    Json.ofOption Json.ofUInt32 filter.limit]

end ResourceApi.Report
