/-
This file shows that lookups and listings describe the same objects, in all backends that the
requests of one kind can lead to.
-/

import ResourceApi.Proofs.Catalog
import ResourceApi.Proofs.Store.Shelf

namespace ResourceApi

universe u

/-- The element stands in one place of the list. -/
def OccursOnce {Element : Type u} (element : Element) (list : List Element) : Prop :=
  ∃ before after, list = before ++ element :: after ∧ element ∉ before ∧ element ∉ after

theorem occursOnce_of_mem {Element : Type u} {element : Element} {list : List Element}
    (different : list.Nodup) (inside : element ∈ list) : OccursOnce element list := by
  obtain ⟨before, after, rfl⟩ := List.append_of_mem inside
  obtain ⟨_, behind, apart⟩ := List.nodup_append.1 different
  refine ⟨before, after, rfl, ?_, (List.nodup_cons.1 behind).1⟩
  intro again
  exact apart element again element List.mem_cons_self rfl

/-- A limit adds nothing. -/
theorem ListFilter.mem_of_mem_cut {Item : Type} {filter : ListFilter} {item : Item}
    {items : List Item} (kept : item ∈ filter.cut items) : item ∈ items := by
  unfold cut at kept
  split at kept
  · exact kept
  · split at kept
    · exact kept
    · exact List.mem_of_mem_take kept

namespace Store

variable {Spec Status : Type} {store : Store Spec Status} {backend : Backend}
  {objects : List (Object Spec Status)} {space : String}

theorem Shelf.nodup (shelf : store.Shelf backend objects) : objects.Nodup := by
  have addresses := shelf.addresses_nodup
  rw [List.Nodup, List.pairwise_map] at addresses
  exact addresses.imp fun different same => different (congrArg Object.address same)

/-- A selector that cannot be read is reported before anything is looked for. -/
theorem list_run_of_unread {scope : ListScope} {filter : ListFilter} {cause : SelectorError}
    (unread : Predicate.ofFilter filter = .error cause) :
    (store.list scope filter).run backend = (.error (.selector cause), backend) := by
  rw [list, unread]
  rfl

/-- Without selectors nothing is left out. -/
theorem selects_everything :
    store.selects ⟨.everything, .everything⟩ = fun _ => true := rfl

/-- All objects stand below the root of the store. -/
theorem Shelf.list_all_eq (shelf : store.Shelf backend objects)
    (faithful : store.kind.Faithful) {filter : ListFilter} {predicate : Predicate}
    (parsed : Predicate.ofFilter filter = .ok predicate) :
    ((store.list .all filter).run backend).1 =
      .ok (store.answerList backend (filter.cut (objects.filter (store.selects predicate)))) := by
  have rooted : store.listRoot .all = .ok store.keyRoot := rfl
  have below : (objects.filter fun object =>
      Text.startsWith (store.objectKey object) store.keyRoot) = objects :=
    List.filter_eq_self.2 fun object _ => startsWith_keyRoot _ _
  rw [shelf.list_eq faithful parsed rooted, below]

theorem Shelf.list_all (shelf : store.Shelf backend objects) (faithful : store.kind.Faithful) :
    ((store.list .all {}).run backend).1 = .ok (store.answerList backend objects) := by
  rw [shelf.list_all_eq faithful rfl, selects_everything, List.filter_eq_self.2 fun _ _ => rfl]
  rfl

/-- Where listings of a namespace begin, no object of another namespace stands. -/
theorem Shelf.startsWith_listRoot_iff (shelf : store.Shelf backend objects)
    {object : Object Spec Status} (inside : object ∈ objects) {root : String}
    (namespaced : store.namespaced = true) (rooted : store.listRoot (.named space) = .ok root) :
    Text.startsWith (store.objectKey object) root = true ↔ object.metadata.space = space := by
  rw [listRoot, if_pos namespaced, checkSpace_map_eq_ok_iff] at rooted
  obtain ⟨legal, rfl⟩ := rooted
  have noSlash : '/' ∉ space.toList := by
    rcases (pathSegmentProblem?_eq_none_iff space).1 legal with rfl | segment
    · simp
    · exact segment.noSlash
  exact startsWith_spaceRoot_iff namespaced _ (shelf.fits object inside).space.noSlash noSlash

/-- The keys below the namespace are those of the objects in it. -/
theorem Shelf.list_named_eq (shelf : store.Shelf backend objects)
    (faithful : store.kind.Faithful) (namespaced : store.namespaced = true)
    (legal : pathSegmentProblem? space = none) {filter : ListFilter} {predicate : Predicate}
    (parsed : Predicate.ofFilter filter = .ok predicate) :
    ((store.list (.named space) filter).run backend).1 = .ok (store.answerList backend
      (filter.cut (objects.filter fun object =>
        decide (object.metadata.space = space) && store.selects predicate object))) := by
  have rooted : store.listRoot (.named space) =
      .ok (store.location.root ++ "/" ++ space ++ "/") := by
    rw [listRoot, if_pos namespaced, checkSpace_map_eq_ok_iff]
    exact ⟨legal, rfl⟩
  rw [shelf.list_eq faithful parsed rooted, List.filter_filter]
  congr 3
  refine List.filter_congr fun object inside => ?_
  have below := shelf.startsWith_listRoot_iff inside namespaced rooted
  rw [Bool.and_comm, Bool.eq_iff_iff.2 (below.trans decide_eq_true_iff.symm)]

/-- A listing of a namespace holds the objects of this namespace. -/
theorem Shelf.list_named (shelf : store.Shelf backend objects) (faithful : store.kind.Faithful)
    (scopes : store.Scopes space) :
    ((store.list (.named space) {}).run backend).1 = .ok (store.answerList backend
      (objects.filter fun object => object.metadata.space = space)) := by
  cases namespaced : store.namespaced with
  | true =>
      have segment := (scopes_of_namespaced namespaced).1 scopes
      have legal := (pathSegmentProblem?_eq_none_iff space).2 (Or.inr segment)
      rw [shelf.list_named_eq faithful namespaced legal rfl, selects_everything]
      simp only [Bool.and_true]
      rfl
  | false =>
      -- Where there are no namespaces, all objects are in the empty one.
      have rooted : store.listRoot (.named space) = .ok store.keyRoot := by
        rw [listRoot, namespaced, if_neg Bool.false_ne_true]
        rfl
      have everywhere : store.list (.named space) {} = store.list .all {} := by
        rw [list, list, rooted]
        rfl
      rw [everywhere, shelf.list_all faithful]
      congr 2
      refine (List.filter_eq_self.2 fun object inside => ?_).symm
      have ownSpace := (scopes_of_clusterScoped namespaced).1 (shelf.fits object inside).space
      rw [(scopes_of_clusterScoped namespaced).1 scopes, decide_eq_true ownSpace]

/-- Whatever is filtered, a listing of a namespace holds no objects of others. -/
theorem Shelf.space_eq_of_list_named (shelf : store.Shelf backend objects)
    (faithful : store.kind.Faithful) (namespaced : store.namespaced = true) {filter : ListFilter}
    {listing : ObjectList Spec Status}
    (answered : ((store.list (.named space) filter).run backend).1 = .ok listing)
    {object : Object Spec Status} (listed : object ∈ listing.items) :
    object.metadata.space = space := by
  cases parsed : Predicate.ofFilter filter with
  | error cause =>
      rw [list_run_of_unread parsed] at answered
      cases answered
  | ok predicate =>
      cases rooted : store.listRoot (.named space) with
      | error error =>
          simp only [list, parsed, rooted, Request.run_done] at answered
          cases answered
      | ok root =>
          rw [listRoot, if_pos namespaced, checkSpace_map_eq_ok_iff] at rooted
          rw [shelf.list_named_eq faithful namespaced rooted.1 parsed] at answered
          cases answered
          have inside := List.mem_filter.1 (ListFilter.mem_of_mem_cut listed)
          exact of_decide_eq_true (Bool.and_eq_true_iff.1 inside.2).1

/-- Lookups and listings describe one list of objects with different addresses. -/
theorem get_and_list_agree (faithful : store.kind.Faithful)
    (keeps : store.strategy.KeepsAddress) (reachable : store.Reachable backend) :
    ∃ all : List (Object Spec Status),
      ((store.list .all {}).run backend).1 = .ok (store.answerList backend all) ∧
      (all.map Object.address).Nodup ∧
      (∀ object ∈ all, (store.get {} object.address).run backend = (.ok object, backend)) ∧
      ∀ {context : Context} {address : Address} {object : Object Spec Status},
        ((store.get context address).run backend).1 = .ok object →
        object.metadata.name = address.name ∧
        store.resolveSpace context address.space = .ok object.metadata.space ∧
        OccursOnce object all ∧
        (∃ named,
          ((store.list (.named object.metadata.space) {}).run backend).1 =
            .ok (store.answerList backend named) ∧
          OccursOnce object named) ∧
        (store.namespaced = true → ∀ {space : String} {filter : ListFilter}
          {listing : ObjectList Spec Status},
          ((store.list (.named space) filter).run backend).1 = .ok listing →
          space ≠ object.metadata.space → object ∉ listing.items) := by
  obtain ⟨objects, shelf⟩ := (reachable.orderly keeps).shelf
  refine ⟨objects, shelf.list_all faithful, shelf.addresses_nodup, ?_, ?_⟩
  · intro object inside
    have settled := resolveSpace_of_scopes (shelf.fits object inside).space
    have answered : ((store.get {} object.address).run backend).1 = .ok object :=
      (shelf.get_eq_ok_iff faithful).2 ⟨inside, rfl, settled⟩
    have unchanged : ((store.get {} object.address).run backend).2 = backend := by
      rw [get_run]
    exact Prod.ext answered unchanged
  · intro context address object answered
    obtain ⟨inside, sameName, settled⟩ := (shelf.get_eq_ok_iff faithful).1 answered
    refine ⟨sameName, settled, occursOnce_of_mem shelf.nodup inside, ?_, ?_⟩
    · refine ⟨_, shelf.list_named faithful (shelf.fits object inside).space, ?_⟩
      refine occursOnce_of_mem (shelf.nodup.sublist List.filter_sublist) ?_
      exact List.mem_filter.2 ⟨inside, decide_eq_true rfl⟩
    · intro namespaced space filter listing listed other inListing
      exact other (shelf.space_eq_of_list_named faithful namespaced listed inListing).symm

section Bars

open Catalog

def bars : Store MessageSpec NoStatus :=
  .ofKind bar .none

def barIn (space : String) : Object MessageSpec NoStatus :=
  { Object.empty bar with metadata := { name := "a", space := space } }

/-- One namespace begins as the other does. -/
def barBackend : Backend :=
  let first := ((bars.request (.create {} (barIn "b"))).run .empty).2
  ((bars.request (.create {} (barIn "bb"))).run first).2

theorem bars_reachable : bars.Reachable barBackend :=
  .visit _ trivial (.visit _ trivial .empty)

theorem bars_keepAddress : bars.strategy.KeepsAddress :=
  ⟨nofun, nofun, nofun, nofun⟩

theorem get_and_list_bars_agree :
    ∃ all, ((bars.list .all {}).run barBackend).1 = .ok (bars.answerList barBackend all) ∧
      OccursOnce ((barIn "b").withVersion "1") all ∧
      ∀ {listing : ObjectList MessageSpec NoStatus},
        ((bars.list (.named "bb") {}).run barBackend).1 = .ok listing →
        (barIn "b").withVersion "1" ∉ listing.items := by
  obtain ⟨all, listed, _, _, found⟩ := get_and_list_agree
    (faithful_of_message rfl rfl rfl rfl) bars_keepAddress bars_reachable
  have answered : ((bars.get {} ⟨"a", "b"⟩).run barBackend).1 =
      .ok ((barIn "b").withVersion "1") := rfl
  obtain ⟨_, _, once, _, noOther⟩ := found answered
  exact ⟨all, listed, once, fun answer => noOther rfl answer (by decide)⟩

end Bars

end Store

end ResourceApi
