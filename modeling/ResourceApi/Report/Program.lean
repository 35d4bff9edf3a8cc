/-
This file reports as JSON how programs ended and what informers did.
-/

import ResourceApi.Cli
import ResourceApi.Workbench

namespace ResourceApi.Report

def starts (workbench : Workbench) : Json :=
  .list (workbench.informers.map fun starts =>
    .list [Json.ofNat starts.all, Json.ofNat starts.afterStop])

/-- There is nothing to report of a program that does not end. -/
def ending : Cli.Ending → Json
  | .exit code message =>
      .object [("exit", Json.ofNat code), ("message", Json.ofOption .text message)]
  | .serving => .null

end ResourceApi.Report
