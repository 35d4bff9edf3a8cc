/-
This file defines what is known about a request besides its object.
-/

namespace ResourceApi

/-- Hooks may read the context. A store looks at the namespace only. -/
structure Context where
  requestedSpace : Option String := none
  user : Option String := none
  deriving DecidableEq, Inhabited

namespace Context

def withSpace (context : Context) (space : String) : Context :=
  { context with requestedSpace := some space }

/-- An empty namespace is no namespace. -/
def space? (context : Context) : Option String :=
  context.requestedSpace.filter (· ≠ "")

end Context

end ResourceApi
