/-
This file says where the objects of a resource are kept: in which backend and below which key.
-/

import ResourceApi.Backend
import ResourceApi.Identity

namespace ResourceApi

/-- Backends are told apart by a number. -/
structure BackendId where
  number : Nat
  deriving DecidableEq, Inhabited

structure Location where
  backend : BackendId
  /-- Every key of the resource begins with this text. -/
  root : String
  deriving DecidableEq, Inhabited

/-- A locator finds the place of a resource, or says why there is none. -/
abbrev Locator := GroupResource → Except BackendError Location

/-- All resources share one backend below one root. -/
structure SharedRoot where
  backend : BackendId
  root : String
  deriving DecidableEq, Inhabited

/-- The root must be absolute. Slashes at its end do not count. -/
def SharedRoot.locate (shared : SharedRoot) : Locator := fun resource =>
  if resource.resource = "" then
    .error (.unconfigured ("empty resource name for group \"" ++ resource.group ++ "\""))
  else if Text.startsWith shared.root "/" then
    let trimmed := (shared.root.toList.reverse.dropWhile (· = '/')).reverse
    .ok ⟨shared.backend, String.ofList trimmed ++ "/" ++ resource.resource⟩
  else
    .error (.unconfigured ("storage prefix \"" ++ shared.root ++ "\" must be absolute"))

end ResourceApi
