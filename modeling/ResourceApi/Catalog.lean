/-
This file lists the sample kinds by name.
-/

import ResourceApi.Catalog.Gadget
import ResourceApi.Catalog.Mover
import ResourceApi.Catalog.Widget

namespace ResourceApi.Catalog

/-- An entry holds a kind with its own table and with all of its behaviours. -/
structure Entry : Type 1 where
  Spec : Type
  Status : Type
  kind : Kind Spec Status
  own : Capabilities Spec Status
  behaviours : Capabilities Spec Status

namespace Entry

def plain (kind : Kind MessageSpec NoStatus) : Entry :=
  ⟨MessageSpec, NoStatus, kind, .none, .none⟩

/-- The table of the entry, or one of the chosen behaviours. -/
def table (entry : Entry) (chosen : Option (List Capability)) :
    Capabilities entry.Spec entry.Status :=
  match chosen with
  | none => entry.own
  | some chosen => entry.behaviours.restrict chosen

end Entry

def entries : List Entry :=
  [.plain bar, .plain barx, .plain clusterBar, .plain node, .plain orphan, .plain blank,
    .plain noGroup, ⟨_, _, gadget, gadgetCapabilities, gadgetCapabilities⟩,
    ⟨_, _, widget, widgetCapabilities, widgetCapabilities⟩,
    ⟨_, _, mover, moverCapabilities, moverBehaviours⟩]

def find? (name : String) : Option Entry :=
  entries.find? fun entry => entry.kind.name = name

end ResourceApi.Catalog
