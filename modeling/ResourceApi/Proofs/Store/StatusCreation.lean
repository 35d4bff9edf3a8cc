/-
This file says when an update of a status creates an object: exactly where the kind allows updates
to create, for the status endpoint leaves this question to the main one.
-/

import ResourceApi.Endpoint
import ResourceApi.Proofs.Catalog
import ResourceApi.Proofs.Store.Visit

namespace ResourceApi

/-- Something stands under the key, and nothing stood there before. -/
def Backend.NewKey (before after : Backend) (key : String) : Prop :=
  before.items.get? key = none ∧ ∃ document, after.items.get? key = some document

theorem Backend.newKey_put_iff {backend : Backend} {key written : String} {document : Json} :
    backend.NewKey (backend.put written document) key ↔
      key = written ∧ backend.items.get? key = none := by
  unfold NewKey
  rw [put_get?]
  by_cases same : key = written
  · simp [same]
  · simp only [same, if_false, false_and, iff_false]
    rintro ⟨absent, document, found⟩
    rw [absent] at found
    cases found

theorem Backend.not_newKey_self (backend : Backend) (key : String) :
    ¬ backend.NewKey backend key := by
  rintro ⟨absent, document, found⟩
  rw [absent] at found
  cases found

namespace Store

variable {Spec Status : Type} {store : Store Spec Status} {strategy : UpdateStrategy Spec Status}
  {backend : Backend} {key : String}

/-- Wherever the request leads, there is no document. -/
def Absent (store : Store Spec Status) (backend : Backend) (context : Context)
    (object : Object Spec Status) : Prop :=
  ∀ space, store.resolveSpace context object.metadata.space = .ok space →
    backend.items.get? (store.key space object.metadata.name) = none

theorem Absent.objectKey {context : Context} {object target : Object Spec Status}
    (absent : store.Absent backend context object)
    (targeted : store.target context object = .ok target) :
    backend.items.get? (store.objectKey target) = none := by
  obtain ⟨_, space, settled, rfl⟩ := target_eq_ok_iff.1 targeted
  exact absent space settled

/-- A creation brings in the key of the object that it admits. -/
theorem create_newKey_iff (context : Context) (object : Object Spec Status) :
    backend.NewKey ((store.create context object).run backend).2 key ↔
      ∃ admitted, store.accept context object = .ok admitted ∧
        key = store.objectKey admitted ∧ backend.items.get? key = none := by
  constructor
  · intro new
    rcases create_cases context object backend with ⟨_, run⟩ | ⟨admitted, accepted, _, run⟩
    · rw [run] at new
      exact absurd new (backend.not_newKey_self key)
    · rw [run, Backend.newKey_put_iff] at new
      exact ⟨admitted, accepted, new⟩
  · rintro ⟨admitted, accepted, rfl, absent⟩
    rw [create_run_of_absent accepted absent, Backend.newKey_put_iff]
    exact ⟨rfl, absent⟩

/-- An update brings in a key only as a creation, where it finds nothing to update. -/
theorem updateWith_newKey_iff (context : Context) (object : Object Spec Status) :
    backend.NewKey ((store.updateWith strategy context object).run backend).2 key ↔
      strategy.allowCreateOnUpdate = true ∧ ∃ target, store.target context object = .ok target ∧
        backend.items.get? (store.objectKey target) = none ∧
        backend.NewKey ((store.create context (target.withVersion "")).run backend).2 key := by
  constructor
  · intro new
    rcases updateWith_cases strategy context object backend with
      ⟨_, run⟩ | ⟨target, current, _, _, _, _, found, _, _, _, run⟩ |
      ⟨target, targeted, absent, allowed, run⟩
    · rw [run] at new
      exact absurd new (backend.not_newKey_self key)
    · rw [run, Backend.newKey_put_iff] at new
      obtain ⟨rfl, absent⟩ := new
      rw [found] at absent
      cases absent
    · rw [run] at new
      exact ⟨allowed, target, targeted, absent, new⟩
  · rintro ⟨allowed, target, targeted, absent, new⟩
    rwa [updateWith_run_of_absent strategy context targeted absent, if_pos allowed]

theorem updateWith_fails_of_absent {context : Context} {object : Object Spec Status}
    (refuses : strategy.allowCreateOnUpdate = false)
    (absent : store.Absent backend context object) :
    ∃ error, (store.updateWith strategy context object).run backend = (.error error, backend) := by
  cases targeted : store.target context object with
  | error error => exact ⟨error, by rw [updateWith, targeted, Request.run_done]⟩
  | ok target =>
      rw [updateWith_run_of_absent strategy context targeted (absent.objectKey targeted), refuses]
      exact ⟨_, rfl⟩

/-- The visits run one after the other. -/
def visitAll (store : Store Spec Status) (visits : List (Visit Spec Status)) (backend : Backend) :
    Backend :=
  visits.foldl (fun backend visit => ((store.request visit).run backend).2) backend

/-- Whatever is new after a run was brought in by one visit. -/
theorem exists_visit_of_newKey {visits : List (Visit Spec Status)}
    (new : backend.NewKey (store.visitAll visits backend) key) :
    ∃ earlier visit later, visits = earlier ++ visit :: later ∧
      (store.visitAll earlier backend).NewKey
        ((store.request visit).run (store.visitAll earlier backend)).2 key := by
  induction visits generalizing backend with
  | nil => exact absurd new (backend.not_newKey_self key)
  | cons first rest inductionHypothesis =>
      cases found : ((store.request first).run backend).2.items.get? key with
      | some document => exact ⟨[], first, rest, rfl, new.1, document, found⟩
      | none =>
          obtain ⟨earlier, visit, later, rfl, brought⟩ := inductionHypothesis ⟨found, new.2⟩
          exact ⟨first :: earlier, visit, later, rfl, brought⟩

/-- The status endpoint creates where the main one does. -/
theorem allowCreateOnUpdate_of_statusStrategy (status : store.statusStrategy? = some strategy) :
    strategy.allowCreateOnUpdate = store.strategy.update.allowCreateOnUpdate := by
  obtain ⟨copy, _, rfl⟩ := Option.map_eq_some_iff.1 status
  rfl

/-- An update of a status creates exactly where the kind allows updates to create. -/
theorem status_creates_iff_allowed (status : store.statusStrategy? = some strategy) :
    (∀ (backend : Backend) (context : Context) (object : Object Spec Status) (key : String),
      backend.NewKey ((store.updateWith strategy context object).run backend).2 key ↔
        store.strategy.update.allowCreateOnUpdate = true ∧
        ∃ target admitted, store.target context object = .ok target ∧
          backend.items.get? (store.objectKey target) = none ∧
          store.accept context (target.withVersion "") = .ok admitted ∧
          key = store.objectKey admitted ∧ backend.items.get? key = none) ∧
    (store.strategy.update.allowCreateOnUpdate = false →
      (∀ (backend : Backend) (context : Context) (object : Object Spec Status),
        store.Absent backend context object →
        ∃ error, (store.updateWith strategy context object).run backend =
          (.error error, backend)) ∧
      ∀ (backend : Backend) (visits : List (Visit Spec Status)) (key : String),
        backend.NewKey (store.visitAll visits backend) key →
        ∃ earlier visit later, visits = earlier ++ visit :: later ∧
          (∀ context object, visit ≠ .update strategy context object) ∧
          (store.visitAll earlier backend).NewKey
            ((store.request visit).run (store.visitAll earlier backend)).2 key) := by
  have inherited := allowCreateOnUpdate_of_statusStrategy status
  refine ⟨?_, ?_⟩
  · intro backend context object key
    rw [updateWith_newKey_iff, inherited]
    simp only [create_newKey_iff, exists_and_left]
  · intro refuses
    rw [← inherited] at refuses
    refine ⟨fun backend context object => updateWith_fails_of_absent refuses, ?_⟩
    intro backend visits key new
    obtain ⟨earlier, visit, later, split, brought⟩ := exists_visit_of_newKey new
    refine ⟨earlier, visit, later, split, ?_, brought⟩
    rintro context object rfl
    rw [request, Request.run_calls, updateWith_newKey_iff, refuses] at brought
    exact absurd brought.1 Bool.false_ne_true

section Widgets

open Catalog

def widgets : Store WidgetSpec WidgetStatus :=
  .ofKind widget widgetCapabilities

def statusOfWidgets : UpdateStrategy WidgetSpec WidgetStatus :=
  widgets.strategy.update.ofStatus Capabilities.copyWholeStatus

/-- No widget has this name. -/
def unknownWidget : Widget :=
  { Object.empty widget with
    metadata := { name := "a" }, spec.value := "intruder", status.phase := "done" }

def insideWidgets : Context :=
  { requestedSpace := some "ns" }

def createdWidget : Widget :=
  widgets.finalNew insideWidgets (unknownWidget.withSpace "ns") "ns"

/-- The specification that came in is stored, and the status is lost. -/
theorem unknownWidget_created :
    widgets.statusStrategy? = some statusOfWidgets ∧
    widgets.Absent .empty insideWidgets unknownWidget ∧
    let run := (widgets.updateWith statusOfWidgets insideWidgets unknownWidget).run .empty
    Backend.empty.NewKey run.2 "/registry/widgets/ns/a" ∧
    ∃ result, run.1 = .ok result ∧ result.spec.value = "intruder" ∧ result.status.phase = "" := by
  have status : widgets.statusStrategy? = some statusOfWidgets := rfl
  have admitted : widgets.accept insideWidgets ((unknownWidget.withSpace "ns").withVersion "") =
      .ok createdWidget := rfl
  have creates := ((status_creates_iff_allowed status).1 .empty insideWidgets unknownWidget
    "/registry/widgets/ns/a").2 ⟨rfl, unknownWidget.withSpace "ns", _, rfl, rfl, admitted, rfl, rfl⟩
  have targeted : widgets.target insideWidgets unknownWidget =
      .ok (unknownWidget.withSpace "ns") := rfl
  have allowed : statusOfWidgets.allowCreateOnUpdate = true := rfl
  have answered : ((widgets.updateWith statusOfWidgets insideWidgets unknownWidget).run .empty).1 =
      .ok (createdWidget.withVersion "1") := by
    rw [updateWith_run_of_absent statusOfWidgets insideWidgets targeted rfl,
      if_pos allowed, create_run_of_absent admitted rfl, read_document widget_faithful]
    rfl
  exact ⟨status, fun _ _ => rfl, creates, createdWidget.withVersion "1", answered, rfl, rfl⟩

end Widgets

end Store

end ResourceApi
