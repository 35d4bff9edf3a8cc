/-
This file says what a listing shows of a backend that holds what stores of the kind have written. No
hook has a part in this, so objects may stand under any keys.
-/

import ResourceApi.Proofs.Store.Listing

namespace ResourceApi

variable {Spec Status : Type}

/-- Every document below the root is an object of the kind, as the kind writes it. -/
def Backend.WrittenBy (backend : Backend) (kind : Kind Spec Status) (root : String) : Prop :=
  ∀ key document, backend.items.get? key = some document → Text.startsWith key root = true →
    ∃ object : Object Spec Status, object.write kind = document

/-- Where only stores of the kind were visited, this is so below every root. -/
theorem Kind.Visited.writtenBy {backend : Backend} {kind : Kind Spec Status}
    (visited : kind.Visited backend) (root : String) : backend.WrittenBy kind root :=
  fun key document found _ => visited.holds key document found

theorem Backend.WrittenBy.exists_objects {backend : Backend} {kind : Kind Spec Status}
    {root : String} (written : backend.WrittenBy kind root) :
    ∃ objects : List (Object Spec Status),
      objects.map (Object.write kind) = (backend.below root).map Prod.snd := by
  obtain ⟨objects, documents, _⟩ : ∃ objects : List (Object Spec Status),
      objects.map (Object.write kind) = (backend.below root).map Prod.snd ∧
        ∀ object ∈ objects, True := by
    refine exists_map_eq fun document inside => ?_
    obtain ⟨⟨key, held⟩, below, rfl⟩ := List.mem_map.1 inside
    obtain ⟨found, begins⟩ := Backend.mem_below_iff.1 below
    obtain ⟨object, same⟩ := written key held found begins
    exact ⟨object, trivial, same⟩
  exact ⟨objects, documents⟩

namespace Store

variable {store : Store Spec Status} {backend : Backend}

/-- A listing looks below this root. -/
def scopeRoot (store : Store Spec Status) : ListScope → String
  | .all => store.keyRoot
  | .named space =>
      if store.namespaced then store.location.root ++ "/" ++ space ++ "/" else store.keyRoot

theorem listRoot_eq_scopeRoot {scope : ListScope}
    (legal : ∀ space, scope = .named space → pathSegmentProblem? space = none) :
    store.listRoot scope = .ok (store.scopeRoot scope) := by
  cases scope with
  | all => rfl
  | named space =>
      rw [listRoot, scopeRoot]
      split
      · exact checkSpace_map_eq_ok_iff.2 ⟨legal space rfl, rfl⟩
      · rfl

/-- A listing shows the selected documents below its root in the order of keys. -/
theorem list_eq_selected_documents (faithful : store.kind.Faithful) {scope : ListScope}
    {filter : ListFilter} {label field : Selector}
    (legal : ∀ space, scope = .named space → pathSegmentProblem? space = none)
    (labels : Predicate.parseSelector filter.labelSelector = .ok label)
    (fields : Predicate.parseSelector filter.fieldSelector = .ok field)
    (written : backend.WrittenBy store.kind (store.scopeRoot scope)) :
    (∃ objects : List (Object Spec Status),
      (backend.below (store.scopeRoot scope)).map
        (fun entry => Object.read store.kind entry.2) = objects.map some ∧
      (store.list scope filter).run backend = (.ok {
        apiVersion := store.kind.apiVersion
        kind := store.kind.name ++ "List"
        metadata := ⟨Text.writeNat backend.revision⟩
        items := filter.cut (objects.filter fun object =>
          label.holds object.metadata.labels &&
            field.holds (object.metadata.selectableFields store.namespaced)) }, backend)) ∧
    ∀ root,
      (∀ key document, (key, document) ∈ backend.below root ↔
        backend.items.get? key = some document ∧ Text.startsWith key root = true) ∧
      ((backend.below root).Pairwise fun first second =>
        Text.bytes first.1 < Text.bytes second.1) ∧
      (backend.list root).items = (backend.below root).map Prod.snd := by
  have parsed : Predicate.ofFilter filter = .ok ⟨label, field⟩ := by
    rw [Predicate.ofFilter, labels, fields]
    rfl
  obtain ⟨objects, documents⟩ := written.exists_objects
  have scanned : (backend.list (store.scopeRoot scope)).items =
      objects.map (Object.write store.kind) := by
    rw [Backend.list_items, documents]
    rfl
  refine ⟨⟨objects, ?_, ?_⟩, fun root => ⟨fun key document => Backend.mem_below_iff,
    backend.pairwise_below root, backend.list_items root⟩⟩
  · calc
      (backend.below (store.scopeRoot scope)).map (fun entry => Object.read store.kind entry.2) =
          ((backend.below (store.scopeRoot scope)).map Prod.snd).map (Object.read store.kind) := by
        rw [List.map_map]
        rfl
      _ = (objects.map (Object.write store.kind)).map (Object.read store.kind) := by
        rw [documents]
      _ = objects.map some := by
        rw [List.map_map]
        exact List.map_congr_left fun object _ =>
          Object.read_write_of_faithful faithful object
  · refine Prod.ext ?_ (list_run scope filter backend)
    rw [list_run_of_written faithful parsed (listRoot_eq_scopeRoot legal) scanned]
    rfl

section Bars

open Catalog

def oneOfNamespace : ListFilter :=
  { fieldSelector := some "metadata.namespace=bb", limit := some 1 }

theorem barBackend_visited : bar.Visited barBackend :=
  .visit bars rfl (.create {} (barIn "bb")) (.visit bars rfl (.create {} (barIn "b")) .empty)

/-- The field selector tells the two namespaces apart. -/
theorem list_bars_of_namespace :
    ∃ listing, (bars.list .all oneOfNamespace).run barBackend = (.ok listing, barBackend) ∧
      listing.items = [(barIn "bb").withVersion "2"] ∧ listing.metadata = ⟨"2"⟩ := by
  have fields : Predicate.parseSelector oneOfNamespace.fieldSelector =
      .ok ⟨[.equals "metadata.namespace" "bb"]⟩ := rfl
  obtain ⟨⟨objects, documents, run⟩, _⟩ := @list_eq_selected_documents _ _ bars barBackend
    (faithful_of_message rfl rfl rfl rfl) .all oneOfNamespace .everything _ nofun rfl fields
    (barBackend_visited.writtenBy _)
  have held : objects.map some =
      [(barIn "b").withVersion "1", (barIn "bb").withVersion "2"].map some :=
    documents.symm.trans (by decide +kernel)
  obtain rfl := (List.map_inj_right fun _ _ => Option.some.inj).1 held
  exact ⟨_, run, by decide +kernel, by decide +kernel⟩

end Bars

end Store

end ResourceApi
