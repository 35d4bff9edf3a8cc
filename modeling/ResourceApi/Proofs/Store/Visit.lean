/-
This file defines what clients ask of a store, and says which calls their requests can make and what
backends they can lead to.
-/

import ResourceApi.Proofs.Store.Run

namespace ResourceApi

/-- A visit is one request to an endpoint of a store. -/
inductive Visit (Spec Status : Type) where
  | get (context : Context) (address : Address)
  | list (scope : ListScope) (filter : ListFilter)
  | create (context : Context) (object : Object Spec Status)
  | update (strategy : UpdateStrategy Spec Status) (context : Context)
      (object : Object Spec Status)
  | delete (context : Context) (address : Address)

namespace Request

variable {Answer : Type}

/-- The calls of the request without its answer. -/
def calls (request : Request Answer) : Request Unit :=
  request.map fun _ => ()

theorem run_calls (request : Request Answer) (backend : Backend) :
    (request.calls.run backend).2 = (request.run backend).2 := by
  rw [calls, run_map]

/-- The request makes no call that updates. -/
def UpdatesNothing : Request Answer → Prop
  | .done _ => True
  | .call made next =>
      (∀ key expected document, made ≠ .update key expected document) ∧
        ∀ reply, (next reply).UpdatesNothing

theorem UpdatesNothing.calls {request : Request Answer} (nothing : request.UpdatesNothing) :
    request.calls.UpdatesNothing := by
  induction request with
  | done answer => exact trivial
  | call made next inductionHypothesis =>
      exact ⟨nothing.1, fun reply => inductionHypothesis reply (nothing.2 reply)⟩

variable {holds : Backend → Prop}

/-- Every call of the request keeps what holds when it is made. -/
def Keeps (holds : Backend → Prop) : Request Answer → Prop
  | .done _ => True
  | .call made next => ∀ backend, holds backend →
      holds (backend.answer made).2 ∧ (next (backend.answer made).1).Keeps holds

theorem Keeps.calls {request : Request Answer} (keeps : request.Keeps holds) :
    request.calls.Keeps holds := by
  induction request with
  | done answer => exact trivial
  | call made next inductionHypothesis =>
      intro backend start
      obtain ⟨after, rest⟩ := keeps backend start
      exact ⟨after, inductionHypothesis _ rest⟩

/-- So it also holds after a request that runs alone. -/
theorem Keeps.run {request : Request Answer} (keeps : request.Keeps holds) {backend : Backend}
    (start : holds backend) : holds (request.run backend).2 := by
  induction request generalizing backend with
  | done answer => exact start
  | call made next inductionHypothesis =>
      obtain ⟨after, rest⟩ := keeps backend start
      exact inductionHypothesis _ rest after

end Request

namespace Store

variable {Spec Status : Type} {store : Store Spec Status}

def request (store : Store Spec Status) : Visit Spec Status → Request Unit
  | .get context address => (store.get context address).calls
  | .list scope filter => (store.list scope filter).calls
  | .create context object => (store.create context object).calls
  | .update strategy context object => (store.updateWith strategy context object).calls
  | .delete context address => (store.delete context address).calls

theorem create_updatesNothing (context : Context) (object : Object Spec Status) :
    (store.create context object).UpdatesNothing := by
  unfold create
  split
  · exact trivial
  · exact ⟨nofun, fun _ => trivial⟩

/-- Only an update makes a call that updates. -/
theorem request_updatesNothing (visit : Visit Spec Status) :
    (store.request visit).UpdatesNothing ∨
      ∃ strategy context object, visit = .update strategy context object := by
  cases visit with
  | get context address =>
      refine Or.inl (Request.UpdatesNothing.calls ?_)
      unfold get
      split
      · exact trivial
      · exact ⟨nofun, fun _ => trivial⟩
  | list scope filter =>
      refine Or.inl (Request.UpdatesNothing.calls ?_)
      unfold list
      split
      · exact trivial
      · split
        · exact trivial
        · exact ⟨nofun, fun _ => trivial⟩
  | create context object => exact Or.inl (create_updatesNothing context object).calls
  | update strategy context object => exact Or.inr ⟨strategy, context, object, rfl⟩
  | delete context address =>
      refine Or.inl (Request.UpdatesNothing.calls ?_)
      unfold delete
      split
      · exact trivial
      · exact ⟨nofun, fun _ => trivial⟩

/-- A request changes nothing, stores an object or removes a document. -/
inductive VisitEffect (store : Store Spec Status) (backend : Backend) (visit : Visit Spec Status) :
    Backend → Prop
  | nothing : VisitEffect store backend visit backend
  | created {context : Context} {object admitted : Object Spec Status}
      (accepted : store.accept context object = .ok admitted) :
      VisitEffect store backend visit
        (backend.put (store.objectKey admitted) (store.document backend admitted))
  | replaced {strategy : UpdateStrategy Spec Status} {context : Context}
      {object target stored replacing : Object Spec Status} {current : Json} {version : String}
      (asked : visit = .update strategy context object)
      (targeted : store.target context object = .ok target)
      (found : backend.items.get? (store.objectKey target) = some current)
      (readable : store.read current = .ok stored)
      (replaced : store.replacement strategy context target stored = .ok (version, replacing)) :
      VisitEffect store backend visit
        (backend.put (store.objectKey target) (store.document backend replacing))
  | removed (key : String) : VisitEffect store backend visit (backend.remove key)

theorem create_effect (visit : Visit Spec Status) (context : Context)
    (object : Object Spec Status) (backend : Backend) :
    store.VisitEffect backend visit ((store.create context object).run backend).2 := by
  rcases create_cases context object backend with ⟨_, run⟩ | ⟨admitted, accepted, _, run⟩
  · rw [run]
    exact .nothing
  · rw [run]
    exact .created accepted

theorem request_effect (visit : Visit Spec Status) (backend : Backend) :
    store.VisitEffect backend visit ((store.request visit).run backend).2 := by
  cases visit with
  | get context address =>
      rw [request, Request.run_calls, get_run]
      exact .nothing
  | list scope filter =>
      rw [request, Request.run_calls, list_run]
      exact .nothing
  | create context object =>
      rw [request, Request.run_calls]
      exact create_effect _ context object backend
  | update strategy context object =>
      rw [request, Request.run_calls]
      rcases updateWith_cases strategy context object backend with
        ⟨_, run⟩ |
        ⟨target, current, stored, version, replacing, targeted, found, readable, replaced, _, run⟩ |
        ⟨target, _, _, _, run⟩
      · rw [run]
        exact .nothing
      · rw [run]
        exact .replaced rfl targeted found readable replaced
      · rw [run]
        exact create_effect _ context (target.withVersion "") backend
  | delete context address =>
      rw [request, Request.run_calls]
      rcases delete_cases context address backend with ⟨_, run⟩ | ⟨key, _, _, _, run⟩
      · rw [run]
        exact .nothing
      · rw [run]
        exact .removed key

end Store

/-- Since the backend was empty, only stores of the kind were visited. -/
inductive Kind.Visited {Spec Status : Type} (kind : Kind Spec Status) : Backend → Prop
  | empty : kind.Visited .empty
  | visit {backend : Backend} (store : Store Spec Status) (ofKind : store.kind = kind)
      (visit : Visit Spec Status) (visited : kind.Visited backend) :
      kind.Visited ((store.request visit).run backend).2

/-- Every document is an object of the kind, as the kind writes it. -/
def Kind.Holds {Spec Status : Type} (kind : Kind Spec Status) (backend : Backend) : Prop :=
  ∀ key document, backend.items.get? key = some document →
    ∃ object : Object Spec Status, object.write kind = document

theorem Kind.Holds.put {Spec Status : Type} {store : Store Spec Status} {backend : Backend}
    (holds : store.kind.Holds backend) (key : String) (object : Object Spec Status) :
    store.kind.Holds (backend.put key (store.document backend object)) := by
  intro sought document found
  rw [Backend.put_get?] at found
  split at found
  · exact ⟨object.withVersion backend.nextVersion, Option.some.inj found⟩
  · exact holds sought document found

theorem Kind.Holds.remove {Spec Status : Type} {kind : Kind Spec Status} {backend : Backend}
    (holds : kind.Holds backend) (key : String) : kind.Holds (backend.remove key) := by
  intro sought document found
  rw [Backend.remove_get?] at found
  split at found
  · cases found
  · exact holds sought document found

/-- Stores of the kind write nothing else. -/
theorem Kind.Visited.holds {Spec Status : Type} {kind : Kind Spec Status} {backend : Backend}
    (visited : kind.Visited backend) : kind.Holds backend := by
  induction visited with
  | empty => exact fun _ _ found => nomatch found
  | @visit backend store ofKind visit visited inductionHypothesis =>
      subst ofKind
      have effect := store.request_effect visit backend
      generalize ((store.request visit).run backend).2 = after at effect ⊢
      cases effect with
      | nothing => exact inductionHypothesis
      | created => exact inductionHypothesis.put _ _
      | replaced => exact inductionHypothesis.put _ _
      | removed key => exact inductionHypothesis.remove key

end ResourceApi
