/-
This file says exactly what a store does for a kind that has no behaviour of its own: what it stores
of an object, and for which reasons it refuses one.
-/

import ResourceApi.Proofs.Store.Listing
import ResourceApi.Proofs.Store.Refusal
import ResourceApi.Proofs.Store.UpdateOutcome

namespace ResourceApi

/-- No step of the strategy changes an object or finds fault with it. -/
structure Strategy.Inert {Spec Status : Type} (strategy : Strategy Spec Status) : Prop where
  generateName : ∀ base, strategy.generateName base = base
  prepareForCreate : ∀ context object, strategy.prepareForCreate context object = object
  validate : ∀ context object, strategy.validate context object = []
  canonicalize : ∀ object, strategy.canonicalize object = object
  prepareForUpdate : ∀ context object stored,
    strategy.prepareForUpdate context object stored = object
  validateUpdate : ∀ context object stored, strategy.validateUpdate context object stored = []
  allowCreateOnUpdate : strategy.update.allowCreateOnUpdate = false
  allowUnconditionalUpdate : strategy.update.allowUnconditionalUpdate = false

theorem Strategy.inert_of_none {Spec Status : Type} {strategy : Strategy Spec Status}
    (plain : strategy.capabilities = .none) : strategy.Inert := by
  obtain ⟨capabilities, namespaced⟩ := strategy
  cases plain
  constructor <;> intros <;> rfl

namespace Store

variable {Spec Status : Type} {store : Store Spec Status} {backend : Backend} {context : Context}
  {object : Object Spec Status} {space : String}

/-- The object has its place, its identity and its version, and is as it came otherwise. -/
def committed (store : Store Spec Status) (backend : Backend) (space name : String)
    (object : Object Spec Status) : Object Spec Status where
  apiVersion := store.kind.apiVersion
  kind := store.kind.name
  metadata := {
    object.metadata with
    name := name
    space := space
    resourceVersion := backend.nextVersion }
  spec := object.spec
  status := object.status

section Inert

variable (inert : store.strategy.Inert)

include inert

theorem prepared_of_inert (context : Context) (object : Object Spec Status) (space : String) :
    store.prepared context object space = (object.withSpace space).withName object.plainName := by
  have named : (object.withSpace space).metadata.name = object.metadata.name := rfl
  have start : (object.withSpace space).metadata.generateName = object.metadata.generateName := rfl
  rw [prepared, inert.prepareForCreate, nameNew, named, start, inert.generateName]
  by_cases empty : object.metadata.name = ""
  · by_cases none : object.metadata.generateName = ""
    · have unchanged : object.plainName = (object.withSpace space).metadata.name := by
        rw [Object.plainName, if_pos empty, none, named, empty]
      simp [empty, none, unchanged, Object.withName]
    · simp [empty, none, Object.plainName]
  · have unchanged : object.plainName = (object.withSpace space).metadata.name := if_neg empty
    simp [empty, unchanged, Object.withName]

/-- So nothing but its place and its kind is set when a new object is stored. -/
theorem finalNew_of_inert (context : Context) (object : Object Spec Status) (space : String) :
    store.finalNew context object space =
      ((object.withSpace space).withName object.plainName).withKind store.kind := by
  rw [finalNew, prepared_of_inert inert, inert.canonicalize]

theorem finalChange_of_inert (context : Context) (object stored : Object Spec Status)
    (version : String) :
    store.finalChange store.strategy.update context object stored version =
      (object.withVersion version).withKind store.kind := by
  show store.strategy.canonicalize (store.strategy.prepareForUpdate context
    ((object.withVersion version).withKind store.kind) stored) = _
  rw [inert.prepareForUpdate, inert.canonicalize]

theorem changeErrors_of_inert (context : Context) (object stored : Object Spec Status) :
    store.changeErrors store.strategy.update context object stored = [] :=
  inert.validateUpdate context _ stored

/-- Only the name can still stop a new object that has a namespace and no version. -/
theorem accept_of_inert (settled : store.resolveSpace context object.metadata.space = .ok space)
    (unversioned : object.metadata.resourceVersion = "") :
    store.accept context object =
      if object.plainName = "" then
        .error (store.missingName "name or generateName is required")
      else
        (store.checkName object.plainName).map fun _ => store.finalNew context object space := by
  have whole : store.nameNew (store.strategy.prepareForCreate context (object.withSpace space)) =
      store.prepared context object space := rfl
  have name : (store.prepared context object space).metadata.name = object.plainName := by
    rw [prepared_of_inert inert]
    rfl
  rw [accept, settled]
  simp only [unversioned, ne_eq, not_true_eq_false, if_false, whole, name, inert.validate]
  cases store.checkName object.plainName <;> rfl

theorem accept_of_inert_of_segment
    (settled : store.resolveSpace context object.metadata.space = .ok space)
    (unversioned : object.metadata.resourceVersion = "") (name : IsSegment object.plainName) :
    store.accept context object = .ok (store.finalNew context object space) := by
  obtain ⟨named, noProblem⟩ := (isSegment_iff object.plainName).1 name
  obtain ⟨passed, checked⟩ := (@checkName_eq_ok_iff _ _ store _).2 noProblem
  rw [accept_of_inert inert settled unversioned, if_neg named, checked]
  rfl

theorem objectKey_finalNew_of_inert (context : Context) (object : Object Spec Status)
    (space : String) :
    store.objectKey (store.finalNew context object space) = store.key space object.plainName := by
  rw [finalNew_of_inert inert]
  rfl

theorem create_run_of_refused {error : ApiError}
    (refused : store.RefusesNew backend context object error) :
    (store.create context object).run backend = (.error error, backend) := by
  cases refused with
  | space refused => simp [create, accept, refused]
  | version settled versioned => simp [create, accept, settled, versioned]
  | unnamed settled unversioned empty =>
      simp [create, accept_of_inert inert settled unversioned, empty]
  | name settled unversioned named refused =>
      simp [create, accept_of_inert inert settled unversioned, named, refused, Except.map]
  | @present space document settled unversioned name held =>
      have accepted := accept_of_inert_of_segment inert settled unversioned name
      rw [← objectKey_finalNew_of_inert inert context] at held
      simp only [create, accepted, Request.run_call, Backend.answer,
        Backend.create_eq_of_present held, Request.run_done, readReply, backendError]
      rw [finalNew_of_inert inert]
      rfl

theorem create_run_of_accepted (faithful : store.kind.Faithful)
    (accepts : store.AcceptsNew backend context object space) :
    (store.create context object).run backend =
      (.ok (store.committed backend space object.plainName object),
        backend.put (store.key space object.plainName)
          ((store.committed backend space object.plainName object).write store.kind)) := by
  have accepted := accept_of_inert_of_segment inert accepts.settled accepts.unversioned accepts.name
  have place := objectKey_finalNew_of_inert inert context object space
  have free := accepts.free
  rw [← place] at free
  rw [create_run_of_absent accepted free, read_document faithful, document, place,
    finalNew_of_inert inert]
  rfl

/-- A replacement must name the stored version, and nothing else is asked of it. -/
theorem replacement_of_inert (context : Context) (object stored : Object Spec Status) :
    store.replacement store.strategy.update context object stored =
      if object.metadata.resourceVersion = "" then
        .error (store.invalid object.metadata.name
          [FieldError.invalid (FieldPath.metadata "resourceVersion") (.text "")
            "must be specified for an update"])
      else if stored.metadata.resourceVersion = object.metadata.resourceVersion then
        .ok (stored.metadata.resourceVersion,
          (object.withVersion stored.metadata.resourceVersion).withKind store.kind)
      else .error (.outdated store.resource object.metadata.name) := by
  rw [replacement_eq, changeErrors_of_inert inert, finalChange_of_inert inert]
  by_cases unversioned : object.metadata.resourceVersion = ""
  · simp [Outdated, LacksVersion, unversioned, inert.allowUnconditionalUpdate]
  · by_cases seen : stored.metadata.resourceVersion = object.metadata.resourceVersion
    · simp [Outdated, LacksVersion, unversioned, seen]
    · simp [Outdated, unversioned, seen, Ne.symm seen]

theorem replace_run_of_refused {key : String} {current : Json} {error : ApiError}
    (held : backend.items.get? key = some current)
    (refused : store.RefusesOver object current error) :
    (store.replace store.strategy.update context key object current).run backend =
      (.error error, backend) := by
  cases refused with
  | unreadable unread => simp [replace, read, unread]
  | unversioned readable empty =>
      have readable := read_eq_ok_iff.2 readable
      simp [replace, readable, replacement_of_inert inert, empty]
  | @outdated stored readable versioned other =>
      have readable := read_eq_ok_iff.2 readable
      by_cases seen : stored.metadata.resourceVersion = object.metadata.resourceVersion
      · have different : Backend.documentVersion current ≠ object.metadata.resourceVersion :=
          other.resolve_left (not_not_intro seen)
        simp only [replace, readable, replacement_of_inert inert, versioned, seen, if_false,
          if_true, Request.run_call, Backend.answer, Backend.update_eq_of_conflict held different,
          Request.run_done, readReply, backendError]
        rfl
      · simp [replace, readable, replacement_of_inert inert, versioned, seen]

theorem replace_run_of_accepted (faithful : store.kind.Faithful) {key : String} {current : Json}
    (held : backend.items.get? key = some current) (accepts : store.AcceptsOver object current) :
    (store.replace store.strategy.update context key object current).run backend =
      (.ok ((object.withVersion backend.nextVersion).withKind store.kind),
        backend.put key (((object.withVersion backend.nextVersion).withKind store.kind).write
          store.kind)) := by
  obtain ⟨stored, readable, seen⟩ := accepts.seen
  have readable := read_eq_ok_iff.2 readable
  simp only [replace, readable, replacement_of_inert inert, accepts.versioned, seen, if_false,
    if_true, Request.run_call, Backend.answer,
    Backend.update_eq_of_version held accepts.carried, write_object, Request.run_done, readReply,
    read_document faithful]
  rfl

omit inert in
theorem target_of_segment (name : IsSegment object.metadata.name)
    (settled : store.resolveSpace context object.metadata.space = .ok space) :
    store.target context object = .ok (object.withSpace space) :=
  target_eq_ok_iff.2 ⟨name, space, settled, rfl⟩

theorem update_run_of_refused {error : ApiError}
    (refused : store.RefusesChange backend context object error) :
    (store.update context object).run backend = (.error error, backend) := by
  cases refused with
  | space refused => simp [update, updateWith, target, refused]
  | unnamed settled empty => simp [update, updateWith, target, settled, empty]
  | name settled named refused =>
      simp [update, updateWith, target, settled, named, refused, Except.map]
  | @absent space settled name missing =>
      have missing : backend.items.get? (store.objectKey (object.withSpace space)) = none := missing
      rw [update, updateWith_run_of_absent _ context (target_of_segment name settled) missing,
        inert.allowCreateOnUpdate]
      rfl
  | document settled name held refused =>
      rw [update, updateWith_run_of_present _ context (target_of_segment name settled) held]
      exact replace_run_of_refused inert held (refused.withSpace _)

theorem update_run_of_accepted (faithful : store.kind.Faithful)
    (accepts : store.AcceptsChange backend context object space) :
    (store.update context object).run backend =
      (.ok (store.committed backend space object.metadata.name object),
        backend.put (store.key space object.metadata.name)
          ((store.committed backend space object.metadata.name object).write store.kind)) := by
  obtain ⟨current, held, replaces⟩ := accepts.replaces
  have targeted := target_of_segment accepts.name accepts.settled
  rw [update, updateWith_run_of_present _ context targeted held]
  exact replace_run_of_accepted inert faithful held (replaces.withSpace space)

end Inert

/-- A kind without behaviours stores what came, or refuses it for a listed reason. -/
theorem plain_kind_stores_as_given (plain : store.strategy.capabilities = .none)
    (faithful : store.kind.Faithful) (backend : Backend) (context : Context)
    (object : Object Spec Status) :
    (∀ result after, (store.create context object).run backend = (.ok result, after) ↔
      ∃ space, store.AcceptsNew backend context object space ∧
        let stored := store.committed backend space object.plainName object
        result = stored ∧
        after = backend.put (store.key space object.plainName) (stored.write store.kind)) ∧
    (∀ error after, (store.create context object).run backend = (.error error, after) ↔
      store.RefusesNew backend context object error ∧ after = backend) ∧
    (∀ result after, (store.update context object).run backend = (.ok result, after) ↔
      ∃ space, store.AcceptsChange backend context object space ∧
        let stored := store.committed backend space object.metadata.name object
        result = stored ∧
        after = backend.put (store.key space object.metadata.name) (stored.write store.kind)) ∧
    (∀ error after, (store.update context object).run backend = (.error error, after) ↔
      store.RefusesChange backend context object error ∧ after = backend) ∧
    (∀ error, store.RefusesNew backend context object error ∨
      store.RefusesChange backend context object error → error.SparesContent) := by
  have inert := Strategy.inert_of_none plain
  obtain ⟨created, notCreated⟩ := settled_by (store.acceptsNew_or_refusesNew backend context object)
    (fun _ accepts => create_run_of_accepted inert faithful accepts)
    (fun _ refused => create_run_of_refused inert refused)
  obtain ⟨changed, notChanged⟩ :=
    settled_by (store.acceptsChange_or_refusesChange backend context object)
      (fun _ accepts => update_run_of_accepted inert faithful accepts)
      (fun _ refused => update_run_of_refused inert refused)
  refine ⟨created, notCreated, changed, notChanged, ?_⟩
  rintro error (refused | refused)
  · exact refused.sparesContent
  · exact refused.sparesContent

section Bars

open Catalog

/-- This bar has no name yet. -/
def namelessBar : Object MessageSpec NoStatus where
  apiVersion := "v0"
  kind := ""
  metadata := {
    generateName := "new"
    space := "b"
    uid := "u"
    generation := some 7
    labels := .singleton "x" "y"
    ownerReferences := [⟨"v1", "Node", "n", "", none⟩] }
  spec := ⟨"hello"⟩
  status := {}

def namedBar : Object MessageSpec NoStatus where
  apiVersion := "foo.example.com/v1"
  kind := "Bar"
  metadata := { namelessBar.metadata with name := "new", resourceVersion := "3" }
  spec := ⟨"hello"⟩
  status := {}

/-- A bar that is there already is changed if its version is named. -/
theorem namelessBar_stored_as_given :
    let changed := (barIn "b").withVersion "1"
    (bars.create {} namelessBar).run barBackend =
      (.ok namedBar, barBackend.put (bars.key "b" "new") (namedBar.write bar)) ∧
    (∃ result, ((bars.update {} changed).run barBackend).1 = .ok result) ∧
    ∃ error, (bars.update {} (barIn "b")).run barBackend = (.error error, barBackend) := by
  intro changed
  have plain : bars.strategy.capabilities = .none := rfl
  have faithful : bars.kind.Faithful := faithful_of_message rfl rfl rfl rfl
  have settled : bars.resolveSpace {} "b" = .ok "b" := rfl
  have new : IsSegment namelessBar.plainName := (isSegment_iff "new").2 (by decide)
  have name : IsSegment "a" := (isSegment_iff "a").2 (by decide)
  have held : barBackend.items.get? (bars.key "b" "a") = some (changed.write bar) := rfl
  have readable : Object.read bar (changed.write bar) = some changed :=
    Object.read_write_of_faithful faithful changed
  have outcome := plain_kind_stores_as_given plain faithful barBackend {}
  obtain ⟨stored, _, _, _, _⟩ := outcome namelessBar
  obtain ⟨_, _, replaced, _, _⟩ := outcome changed
  obtain ⟨_, _, _, notReplaced, _⟩ := outcome (barIn "b")
  refine ⟨(stored _ _).2 ⟨"b", ⟨settled, rfl, new, rfl⟩, rfl, rfl⟩, ?_, ?_⟩
  · have replaces : bars.AcceptsOver changed (changed.write bar) :=
      ⟨by decide, ⟨changed, readable, rfl⟩, Backend.documentVersion_write bar changed⟩
    have accepts : bars.AcceptsChange barBackend {} changed "b" :=
      ⟨settled, name, _, held, replaces⟩
    exact ⟨_, congrArg Prod.fst ((replaced _ _).2 ⟨"b", accepts, rfl, rfl⟩)⟩
  · exact ⟨_, (notReplaced _ _).2 ⟨.document settled name held (.unversioned readable rfl), rfl⟩⟩

end Bars

end Store

end ResourceApi
