/-
This file compares two ways to list one namespace. The one looks at the keys of the documents, the
other reads a selector and looks into the documents. They agree.
-/

import ResourceApi.Proofs.Selector
import ResourceApi.Proofs.Store.Listing
import ResourceApi.Proofs.Store.Sharing
import ResourceApi.Proofs.Store.StoredForm

namespace ResourceApi

namespace Selector

/-- The text is the same as a value in a term. -/
structure IsValue (value : String) : Prop where
  trimmed : Text.Trimmed value.toList
  noComma : ',' ∉ value.toList
  noEquals : '=' ∉ value.toList

def ofSpace (space : String) : Selector :=
  ⟨[.equals "metadata.namespace" space]⟩

theorem display_ofSpace (space : String) :
    (ofSpace space).display = "metadata.namespace=" ++ space :=
  congrArg (· ++ space) (by decide : "metadata.namespace" ++ "=" = "metadata.namespace=")

theorem parse_ofSpace {space : String} (value : IsValue space) :
    parse ("metadata.namespace=" ++ space) = .ok (ofSpace space) := by
  have isKey : Requirement.IsKey "metadata.namespace" := ⟨by decide, List.all_eq_true.1 rfl⟩
  rw [← display_ofSpace]
  refine parse_display ?_ ?_ ?_
  · intro requirement inside
    cases List.mem_singleton.1 inside
    exact ⟨isKey, value.trimmed, fun mark => value.noEquals (mark.subset (by simp))⟩
  · intro requirement inside
    cases List.mem_singleton.1 inside
    rw [Requirement.display, String.toList_append, String.toList_append, List.mem_append,
      List.mem_append, not_or, not_or]
    exact ⟨⟨by decide, by decide⟩, value.noComma⟩
  · intro key held inside
    cases List.mem_singleton.1 inside
    exact value.noEquals

/-- The selector holds for what is in the namespace. -/
theorem holds_ofSpace (space : String) (metadata : ObjectMeta) :
    (ofSpace space).holds (metadata.selectableFields true) = decide (metadata.space = space) := by
  have field : (metadata.selectableFields true).get? "metadata.namespace" =
      some metadata.space := by
    rw [ObjectMeta.get?_selectableFields]
    rfl
  rw [Bool.eq_iff_iff]
  simp [ofSpace, holds, Requirement.holds, field]

end Selector

namespace Store

variable {Spec Status : Type} {store : Store Spec Status} {backend : Backend} {space : String}

/-- A listing needs no more than the part below the root of the store. -/
theorem list_run_of_within {scope : ListScope} {filter : ListFilter}
    {items : List (Object Spec Status)}
    (answered : ((store.list scope filter).run (backend.within store.keyRoot)).1 =
      .ok (store.answerList (backend.within store.keyRoot) items)) :
    (store.list scope filter).run backend = (.ok (store.answerList backend items), backend) := by
  rw [(list_staysBelow store scope filter).run_within backend] at answered
  exact Prod.ext answered (list_run scope filter backend)

theorem selects_everywhere (label : Selector) :
    store.selects ⟨label, .everything⟩ = fun object => label.holds object.metadata.labels :=
  funext fun _ => Bool.and_true _

theorem selects_ofSpace (namespaced : store.namespaced = true) (label : Selector) :
    store.selects ⟨label, .ofSpace space⟩ = fun object =>
      decide (object.metadata.space = space) && label.holds object.metadata.labels := by
  funext object
  rw [selects, Predicate.holds, namespaced, Selector.holds_ofSpace, Bool.and_comm]

/-- A namespace can be listed by its name or by a field selector. -/
theorem list_named_eq_list_selected (faithful : store.kind.Faithful)
    (keeps : store.strategy.KeepsAddress) (reachable : store.ReachableShared backend)
    (namespaced : store.namespaced = true) (legal : pathSegmentProblem? space = none)
    (value : Selector.IsValue space) (labels : Option String) (limit : Option UInt32) :
    let byName : ListFilter := { labelSelector := labels, limit }
    let bySelector : ListFilter :=
      { byName with fieldSelector := some ("metadata.namespace=" ++ space) }
    (store.list (.named space) byName).run backend = (store.list .all bySelector).run backend ∧
    (∀ cause, Predicate.parseSelector labels = .error cause →
      (store.list (.named space) byName).run backend = (.error (.selector cause), backend)) ∧
    ∀ label, Predicate.parseSelector labels = .ok label →
      ∃ all : List (Object Spec Status),
        (store.list .all {}).run backend = (.ok (store.answerList backend all), backend) ∧
        (store.list (.named space) byName).run backend =
          (.ok (store.answerList backend (byName.cut (all.filter fun object =>
            decide (object.metadata.space = space) &&
              label.holds object.metadata.labels))), backend) := by
  intro byName bySelector
  have fields : Predicate.parseSelector bySelector.fieldSelector = .ok (.ofSpace space) :=
    Selector.parse_ofSpace value
  cases parsed : Predicate.parseSelector labels with
  | error cause =>
      have nameUnread : Predicate.ofFilter byName = .error cause := by
        simp only [Predicate.ofFilter, byName, parsed]
      have selectorUnread : Predicate.ofFilter bySelector = .error cause := by
        simp only [Predicate.ofFilter, bySelector, byName, parsed]
      rw [list_run_of_unread nameUnread, list_run_of_unread selectorUnread]
      refine ⟨rfl, ?_, nofun⟩
      rintro other same
      cases same
      rfl
  | ok label =>
      have nameParsed : Predicate.ofFilter byName = .ok ⟨label, .everything⟩ := by
        simp only [Predicate.ofFilter, byName, parsed]
        rfl
      have selectorParsed : Predicate.ofFilter bySelector = .ok ⟨label, .ofSpace space⟩ := by
        rw [Predicate.ofFilter, fields]
        simp only [bySelector, byName, parsed]
        rfl
      obtain ⟨objects, shelf⟩ := (reachable.orderly keeps).shelf
      have named := list_run_of_within
        (shelf.list_named_eq faithful namespaced legal nameParsed)
      have selected := list_run_of_within (shelf.list_all_eq faithful selectorParsed)
      rw [selects_everywhere] at named
      rw [selects_ofSpace namespaced] at selected
      refine ⟨named.trans selected.symm, nofun, ?_⟩
      rintro other same
      cases same
      exact ⟨objects, list_run_of_within (shelf.list_all faithful), named⟩

section Bars

open Catalog

/-- One of the movers wants to get to the place of a bar. -/
def barTurns : List Turn :=
  [.arrive ⟨_, _, bars, .create {} (barIn "b")⟩, .arrive ⟨_, _, bars, .create {} (barIn "bb")⟩,
    .arrive ⟨_, _, wanderers, .create {}
      { Object.empty mover with
        metadata := { name := "a", space := "b" }
        spec := { renamespace := "../bars/bb" } }⟩,
    .proceed 2, .proceed 1, .proceed 0]

theorem barTurns_reachable :
    bars.ReachableShared (Interleaving.run barTurns).backend := by
  refine ⟨barTurns, ?_, rfl⟩
  have apart : Text.Apart wanderers.keyRoot bars.keyRoot :=
    @Text.apart_of_parts "/registry" _ _ (by decide) (by decide) (by decide)
  intro client comes
  simp only [barTurns, List.mem_cons, Turn.arrive.injEq, List.not_mem_nil, reduceCtorEq,
    or_false] at comes
  rcases comes with rfl | rfl | rfl
  · exact .own _ trivial
  · exact .own _ trivial
  · exact .other _ apart

theorem list_bars_by_selector :
    let backend := (Interleaving.run barTurns).backend
    ∃ listing,
      (bars.list (.named "bb") { limit := some 1 }).run backend = (.ok listing, backend) ∧
      (bars.list .all { fieldSelector := some "metadata.namespace=bb", limit := some 1 }).run
        backend = (.ok listing, backend) ∧
      listing.metadata = ⟨"3"⟩ ∧ listing.items = [(barIn "bb").withVersion "2"] := by
  intro backend
  have solid : ∀ character ∈ "bb".toList, Text.isBlank character = false := by simp [Text.isBlank]
  have value : Selector.IsValue "bb" := ⟨Text.trimmed_of_all solid, by decide, by decide⟩
  obtain ⟨same, _, found⟩ := list_named_eq_list_selected (faithful_of_message rfl rfl rfl rfl)
    bars_keepAddress barTurns_reachable rfl (by decide) value none (some 1)
  obtain ⟨_, _, named⟩ := found .everything rfl
  have items : (((bars.list (.named "bb") { limit := some 1 }).run backend).1.map
      ObjectList.items).toOption = some [(barIn "bb").withVersion "2"] := by
    decide +kernel
  have version : Text.writeNat backend.revision = "3" := by decide +kernel
  rw [named] at items
  exact ⟨_, named, same.symm.trans named, congrArg ListMeta.mk version, Option.some.inj items⟩

end Bars

end Store

end ResourceApi
