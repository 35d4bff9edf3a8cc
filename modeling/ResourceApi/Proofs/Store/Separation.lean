/-
This file shows that resources with different names do not touch each other, although they share
a backend and although hooks may move their objects.
-/

import ResourceApi.Endpoint
import ResourceApi.Proofs.Backend.Region
import ResourceApi.Proofs.Catalog
import ResourceApi.Proofs.Store.Run

namespace ResourceApi

namespace Store

variable {Spec Status : Type} {store : Store Spec Status} {root : String} {first second : Backend}

theorem objectKey_below (object : Object Spec Status) :
    Text.startsWith (store.objectKey object) store.keyRoot = true :=
  startsWith_keyRoot _ _

theorem addressKey_below {context : Context} {address : Address} {key : String}
    (addressed : store.addressKey context address = .ok key) :
    Text.startsWith key store.keyRoot = true := by
  obtain ⟨_, space, _, rfl⟩ := addressKey_eq_ok_iff.1 addressed
  exact startsWith_keyRoot _ _

/-- Listings begin at the root of the store or further down. -/
theorem listRoot_below {scope : ListScope} (rooted : store.listRoot scope = .ok root) :
    Text.startsWith root store.keyRoot = true := by
  cases scope with
  | all =>
      cases rooted
      exact Text.startsWith_self _
  | named space =>
      rw [listRoot] at rooted
      split at rooted
      · obtain ⟨_, rfl⟩ := checkSpace_map_eq_ok_iff.1 rooted
        rw [Text.startsWith_iff]
        refine ⟨(space ++ "/").toList, ?_⟩
        simp only [keyRoot, String.toList_append, List.append_assoc]
      · cases rooted
        exact Text.startsWith_self _

section Calls

variable (store)

theorem get_staysBelow (context : Context) (address : Address) :
    (store.get context address).StaysBelow store.keyRoot := by
  unfold get
  split
  · exact trivial
  next addressed => exact ⟨addressKey_below addressed, fun _ => trivial⟩

theorem list_staysBelow (scope : ListScope) (filter : ListFilter) :
    (store.list scope filter).StaysBelow store.keyRoot := by
  unfold list
  split
  · exact trivial
  · split
    · exact trivial
    next rooted => exact ⟨listRoot_below rooted, fun _ => trivial⟩

/-- Wherever the hooks put a new object, its key stands below the root of the store. -/
theorem create_staysBelow (context : Context) (object : Object Spec Status) :
    (store.create context object).StaysBelow store.keyRoot := by
  unfold create
  split
  · exact trivial
  next admitted _ => exact ⟨objectKey_below admitted, fun _ => trivial⟩

theorem delete_staysBelow (context : Context) (address : Address) :
    (store.delete context address).StaysBelow store.keyRoot := by
  unfold delete
  split
  · exact trivial
  next addressed => exact ⟨addressKey_below addressed, fun _ => trivial⟩

/-- The document is replaced where it was found, whatever address the hooks give to its object. -/
theorem replace_staysBelow (strategy : UpdateStrategy Spec Status) (context : Context)
    {key : String} (below : Text.startsWith key store.keyRoot = true)
    (object : Object Spec Status) (document : Json) :
    (store.replace strategy context key object document).StaysBelow store.keyRoot := by
  unfold replace
  split
  · exact trivial
  · split
    · exact trivial
    · exact ⟨below, fun _ => trivial⟩

theorem updateWith_staysBelow (strategy : UpdateStrategy Spec Status) (context : Context)
    (object : Object Spec Status) :
    (store.updateWith strategy context object).StaysBelow store.keyRoot := by
  unfold updateWith
  split
  · exact trivial
  next target _ =>
    refine ⟨objectKey_below target, fun reply => ?_⟩
    cases reply with
    | ok document => exact replace_staysBelow store strategy context (objectKey_below target) _ _
    | error cause =>
        dsimp only
        split
        · exact create_staysBelow store context _
        · exact trivial

theorem overDocument_staysBelow
    {request : Object Spec Status → Request (Except ApiError (Object Spec Status))}
    (below : ∀ object, (request object).StaysBelow root) (document : Json) :
    (store.overDocument request document).StaysBelow root := by
  unfold overDocument
  split
  · exact trivial
  next object _ => exact (below object).map _

end Calls

/-- A lookup depends on nothing but the documents below the root of the store. -/
theorem get_run_congr (same : Backend.SameBelow store.keyRoot first second) (context : Context)
    (address : Address) :
    ((store.get context address).run first).1 = ((store.get context address).run second).1 := by
  rw [get_run, get_run]
  cases addressed : store.addressKey context address with
  | error error => rfl
  | ok key => simp only [same.get (addressKey_below addressed)]

/-- The items of a listing depend on nothing else either. -/
theorem list_run_congr (same : Backend.SameBelow store.keyRoot first second) (scope : ListScope)
    (filter : ListFilter) :
    ((store.list scope filter).run first).1.map ObjectList.items =
      ((store.list scope filter).run second).1.map ObjectList.items := by
  unfold list
  cases Predicate.ofFilter filter with
  | error cause => rfl
  | ok predicate =>
      cases rooted : store.listRoot scope with
      | error error => rfl
      | ok root =>
          have items := same.list_items (listRoot_below rooted)
          simp only [Request.run_call, Backend.answer, Request.run_done, listed, items]
          cases store.select predicate (room filter) (second.list root).items <;> rfl

end Store

namespace Endpoint

/-- These are the requests that an endpoint serves. -/
inductive Operation where
  | get (context : Context) (address : Address)
  | list (scope : ListScope) (filter : ListFilter)
  | create (context : Context) (document : Json)
  | update (context : Context) (document : Json)
  | delete (context : Context) (address : Address)

def perform (endpoint : Endpoint) : Operation → Request (Except ApiError Json)
  | .get context address => endpoint.get context address
  | .list scope filter => endpoint.list scope filter
  | .create context document => endpoint.create context document
  | .update context document => endpoint.update context document
  | .delete context address => endpoint.delete context address

/-- The items of a list without the version at which it was made. -/
def itemsOf (answer : Except ApiError Json) : Except ApiError (Option Json) :=
  answer.map (Json.field? "items")

end Endpoint

namespace Store

variable {Spec Status : Type} {store : Store Spec Status} {endpoint : Endpoint}

/-- The locator has found the place of the store. -/
def LocatedBy (store : Store Spec Status) (locate : Locator) : Prop :=
  Store.new store.kind store.resource store.strategy locate = .ok store

/-- The endpoint is the main one of the store or that of its status. -/
def Offers (store : Store Spec Status) (endpoint : Endpoint) : Prop :=
  endpoint = store.endpoint ∨ store.statusEndpoint? = some endpoint

/-- The two endpoints of a store differ in their updates, their names and their looks. -/
theorem Offers.exists_strategy (offers : store.Offers endpoint) :
    ∃ shortNames debug strategy,
      endpoint = store.endpointWith shortNames debug (store.updateWith strategy) := by
  rcases offers with rfl | status
  · exact ⟨_, _, store.strategy.update, rfl⟩
  · obtain ⟨strategy, _, rfl⟩ := Option.map_eq_some_iff.1 status
    exact ⟨_, _, strategy, rfl⟩

/-- All that an endpoint does happens below the root of its store. -/
theorem Offers.perform_staysBelow (offers : store.Offers endpoint)
    (operation : Endpoint.Operation) :
    (endpoint.perform operation).StaysBelow store.keyRoot := by
  obtain ⟨shortNames, debug, strategy, rfl⟩ := offers.exists_strategy
  cases operation with
  | get context address => exact (get_staysBelow store context address).map _
  | list scope filter => exact (list_staysBelow store scope filter).map _
  | create context document =>
      exact overDocument_staysBelow store (create_staysBelow store context) document
  | update context document =>
      exact overDocument_staysBelow store (updateWith_staysBelow store strategy context) document
  | delete context address => exact (delete_staysBelow store context address).map _

variable {first second : Backend}

theorem Offers.get_run_congr (offers : store.Offers endpoint)
    (same : Backend.SameBelow store.keyRoot first second) (context : Context)
    (address : Address) :
    ((endpoint.get context address).run first).1 =
      ((endpoint.get context address).run second).1 := by
  obtain ⟨shortNames, debug, strategy, rfl⟩ := offers.exists_strategy
  have looked := Store.get_run_congr same context address
  simp only [endpointWith, Request.run_map, looked]

theorem Offers.list_run_congr (offers : store.Offers endpoint)
    (same : Backend.SameBelow store.keyRoot first second) (scope : ListScope)
    (filter : ListFilter) :
    Endpoint.itemsOf ((endpoint.list scope filter).run first).1 =
      Endpoint.itemsOf ((endpoint.list scope filter).run second).1 := by
  obtain ⟨shortNames, debug, strategy, rfl⟩ := offers.exists_strategy
  have written (answer : Except ApiError (ObjectList Spec Status)) :
      Endpoint.itemsOf (answer.map (ObjectList.write store.kind)) =
        (answer.map ObjectList.items).map fun items =>
          some (.list (items.map (Object.write store.kind))) := by
    cases answer <;> rfl
  simp only [endpointWith, Request.run_map, written, Store.list_run_congr same scope filter]

/-- Stores of one locator have the names of their resources below one common root. -/
theorem LocatedBy.exists_root {shared : SharedRoot} (located : store.LocatedBy shared.locate) :
    store.keyRoot = String.ofList (shared.root.toList.reverse.dropWhile (· = '/')).reverse ++ "/" ++
      store.resource.resource ++ "/" := by
  unfold LocatedBy Store.new SharedRoot.locate at located
  split at located
  · cases located
  next location found =>
    split at found
    · cases found
    · split at found
      · cases found
        have made := Except.ok.inj located
        rw [keyRoot, ← congrArg Store.location made]
      · cases found

/-- No request to one resource changes what is found or listed of another. -/
theorem other_resources_untouched {FirstSpec FirstStatus SecondSpec SecondStatus : Type}
    {shared : SharedRoot} {visited : Store FirstSpec FirstStatus}
    {watched : Store SecondSpec SecondStatus} (visitedPlace : visited.LocatedBy shared.locate)
    (watchedPlace : watched.LocatedBy shared.locate)
    (visitedName : '/' ∉ visited.resource.resource.toList)
    (watchedName : '/' ∉ watched.resource.resource.toList)
    (different : visited.resource.resource ≠ watched.resource.resource)
    {served seen : Endpoint} (serves : visited.Offers served) (sees : watched.Offers seen)
    (operation : Endpoint.Operation) (backend : Backend) :
    let after := ((served.perform operation).run backend).2
    (∀ context address,
      ((seen.get context address).run after).1 = ((seen.get context address).run backend).1) ∧
    ∀ scope filter, Endpoint.itemsOf ((seen.list scope filter).run after).1 =
      Endpoint.itemsOf ((seen.list scope filter).run backend).1 := by
  have apart : Text.Apart visited.keyRoot watched.keyRoot := by
    rw [visitedPlace.exists_root, watchedPlace.exists_root]
    exact Text.apart_of_parts visitedName watchedName different
  have same := (serves.perform_staysBelow operation).sameBelow apart backend
  exact ⟨sees.get_run_congr same, sees.list_run_congr same⟩

section Neighbours

open Catalog

/-- The root is written with a slash at its end. -/
def sampleRoot : SharedRoot := ⟨⟨0⟩, "/registry/"⟩

/-- The hooks of this kind move its objects to other namespaces. -/
def wanderers : Store MoverSpec MoverStatus :=
  .ofKind mover moverCapabilities

/-- The plural of this kind begins with that of the other. -/
def residents : Store MessageSpec NoStatus :=
  .ofKind { clusterBar with plural := "moversx" } .none

def residentBackend : Backend :=
  Backend.empty.put "/registry/moversx/a"
    ((Object.empty clusterBar).withName "a" |>.write clusterBar)

/-- This mover wants to get to a namespace that would lead to the other resource. -/
def wanderer : Json :=
  .object [("metadata", .object [("name", .text "a"), ("namespace", .text "b")]),
    ("spec", .object [("renamespace", .text "../moversx")])]

/-- The mover is stored, but the other object is still found as it was. -/
theorem wanderer_leaves_residents :
    let after := ((wanderers.endpoint.perform (.create {} wanderer)).run residentBackend).2
    wanderers.LocatedBy sampleRoot.locate ∧ residents.LocatedBy sampleRoot.locate ∧
    after.items.keys = ["/registry/movers/../moversx/a", "/registry/moversx/a"] ∧
    ((residents.endpoint.get {} ⟨"a", ""⟩).run after).1 =
      .ok ((Object.empty clusterBar).withName "a" |>.write clusterBar) := by
  intro after
  have untouched := @other_resources_untouched _ _ _ _ sampleRoot wanderers residents rfl rfl
    (by decide) (by decide) (by decide) _ _ (Or.inl rfl) (Or.inl rfl) (.create {} wanderer)
    residentBackend
  refine ⟨rfl, rfl, by decide +kernel, ?_⟩
  rw [untouched.1]
  rfl

end Neighbours

end Store

end ResourceApi
