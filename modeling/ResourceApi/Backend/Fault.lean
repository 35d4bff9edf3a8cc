/-
This file defines backends that fail as planned. A planned fault answers one call before the call
reaches the documents.
-/

import ResourceApi.Backend.Call

namespace ResourceApi

inductive CallName where
  | create
  | get
  | list
  | update
  | delete
  deriving DecidableEq

def Call.name : Call → CallName
  | .create .. => .create
  | .get _ => .get
  | .list _ => .list
  | .update .. => .update
  | .delete _ => .delete

inductive Fault where
  | notFound
  | alreadyExists
  | conflict
  | unconfigured
  | lockPoisoned
  | json

def CallName.ofName? : String → Option CallName
  | "create" => some .create
  | "get" => some .get
  | "list" => some .list
  | "update" => some .update
  | "delete" => some .delete
  | _ => none

def Fault.ofName? : String → Option Fault
  | "NotFound" => some .notFound
  | "AlreadyExists" => some .alreadyExists
  | "Conflict" => some .conflict
  | "Config" => some .unconfigured
  | "LockPoisoned" => some .lockPoisoned
  | "Json" => some .json
  | _ => none

def Fault.error (key : String) : Fault → BackendError
  | .notFound => .notFound key
  | .alreadyExists => .alreadyExists key
  | .conflict => .conflict key "1" "2"
  | .unconfigured => .unconfigured "down"
  | .lockPoisoned => .lockPoisoned
  | .json => .json

structure FaultyBackend where
  store : Backend := .empty
  faults : List (CallName × Fault) := []

namespace FaultyBackend

instance : Inhabited FaultyBackend := ⟨{}⟩

/-- The next call of the name fails, as the latest plan for it says. -/
def plan (backend : FaultyBackend) (name : CallName) (fault : Fault) : FaultyBackend :=
  { backend with faults := (name, fault) :: backend.faults.filter fun planned => planned.1 ≠ name }

def answer (backend : FaultyBackend) (call : Call) :
    Except BackendError call.Reply × FaultyBackend :=
  match backend.faults.find? fun planned => planned.1 = call.name with
  | some planned =>
      let faults := backend.faults.filter fun planned => planned.1 ≠ call.name
      (.error (planned.2.error call.key), { backend with faults })
  | none =>
      let (reply, store) := backend.store.answer call
      (reply, { backend with store })

def run {Answer : Type} (backend : FaultyBackend) (request : Request Answer) :
    Answer × FaultyBackend :=
  request.runWith answer backend

end FaultyBackend

end ResourceApi
