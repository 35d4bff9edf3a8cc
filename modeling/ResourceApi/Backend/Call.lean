/-
This file defines the calls that a backend answers, and requests as programs of such calls. Each
call is one step, so requests can be run alone or in turns with others.
-/

import ResourceApi.Backend

namespace ResourceApi

inductive Call where
  | create (key : String) (document : Json)
  | get (key : String)
  | list (root : String)
  | update (key : String) (expected : Option String) (document : Json)
  | delete (key : String)

namespace Call

/-- Every call is answered by one document, except a listing. -/
abbrev Reply : Call → Type
  | .list _ => Listing
  | _ => Json

def key : Call → String
  | .create key _ => key
  | .get key => key
  | .list root => root
  | .update key _ _ => key
  | .delete key => key

end Call

def Backend.answer (backend : Backend) :
    (call : Call) → Except BackendError call.Reply × Backend
  | .create key document => backend.create key document
  | .get key => (backend.get key, backend)
  | .list root => (.ok (backend.list root), backend)
  | .update key expected document => backend.update key expected document
  | .delete key => backend.delete key

/-- A request is over, or makes one call and goes on with its reply. -/
inductive Request (Answer : Type) where
  | done (answer : Answer)
  | call (made : Call) (next : Except BackendError made.Reply → Request Answer)

namespace Request

variable {Answer Result State : Type}

def map (change : Answer → Result) : Request Answer → Request Result
  | .done answer => .done (change answer)
  | .call made next => .call made fun reply => (next reply).map change

/-- The request runs alone on something that answers calls. -/
def runWith (answer : State → (call : Call) → Except BackendError call.Reply × State)
    (state : State) : Request Answer → Answer × State
  | .done value => (value, state)
  | .call made next =>
      let (reply, state) := answer state made
      runWith answer state (next reply)

def run (backend : Backend) (request : Request Answer) : Answer × Backend :=
  request.runWith Backend.answer backend

/-- The document under a key is asked for, to see whether there is one. -/
def isPresent (key : String) : Request (Except BackendError Bool) :=
  .call (.get key) fun reply =>
    match reply with
    | .ok _ => .done (.ok true)
    | .error error => if error.isNotFound then .done (.ok false) else .done (.error error)

end Request

end ResourceApi
