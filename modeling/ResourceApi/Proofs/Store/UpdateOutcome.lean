/-
This file says how an update of a stored object ends when it runs alone: which of its checks decides,
and that the backend itself has no objection.
-/

import ResourceApi.Proofs.Store.Placement

namespace ResourceApi

/-- The backend answers every call that the request makes when it runs alone. -/
inductive Request.AllAnswered {Answer : Type} : Request Answer → Backend → Prop
  | done (answer : Answer) (backend : Backend) : AllAnswered (.done answer) backend
  | call {backend after : Backend} {made : Call} {reply : made.Reply}
      {next : Except BackendError made.Reply → Request Answer}
      (answered : backend.answer made = (.ok reply, after))
      (rest : AllAnswered (next (.ok reply)) after) : AllAnswered (.call made next) backend

section Sorts

variable {Answer Result : Type} {sort : ApiError → Bool} {answer : Except ApiError Answer}

/-- The answer is an error of this sort. -/
def FailsAs (sort : ApiError → Bool) (answer : Except ApiError Answer) : Prop :=
  ∃ error, answer = .error error ∧ sort error = true

@[simp] theorem failsAs_error_iff {error : ApiError} :
    FailsAs sort (.error error : Except ApiError Answer) ↔ sort error = true := by
  simp [FailsAs]

@[simp] theorem not_failsAs_ok {result : Answer} : ¬ FailsAs sort (.ok result) := by
  simp [FailsAs]

@[simp] theorem failsAs_map_iff {change : Answer → Result} :
    FailsAs sort (answer.map change) ↔ FailsAs sort answer := by
  cases answer <;> simp [Except.map]

end Sorts

namespace Store

variable {Spec Status : Type} {store : Store Spec Status} {backend : Backend}
  {strategy : UpdateStrategy Spec Status} {context : Context}
  {object stored : Object Spec Status} {key : String} {current : Json}

/-- The update names a version, and this is not the stored one. -/
def Outdated (object stored : Object Spec Status) : Prop :=
  object.metadata.resourceVersion ≠ "" ∧
    object.metadata.resourceVersion ≠ stored.metadata.resourceVersion

instance : Decidable (Outdated object stored) :=
  inferInstanceAs (Decidable (_ ∧ _))

/-- The update names no version, and the strategy wants one. -/
def LacksVersion (strategy : UpdateStrategy Spec Status) (object : Object Spec Status) : Prop :=
  object.metadata.resourceVersion = "" ∧ strategy.allowUnconditionalUpdate = false

instance : Decidable (LacksVersion strategy object) :=
  inferInstanceAs (Decidable (_ ∧ _))

/-- What is wrong with the prepared object in the eyes of the kind. -/
def changeErrors (store : Store Spec Status) (strategy : UpdateStrategy Spec Status)
    (context : Context) (object stored : Object Spec Status) : List FieldError :=
  strategy.validate context
    (store.proposed strategy context object stored stored.metadata.resourceVersion) stored

/-- An update that is not refused for its version replaces the stored one. -/
theorem replacedVersion_eq (strategy : UpdateStrategy Spec Status)
    (object stored : Object Spec Status) :
    store.replacedVersion strategy object stored =
      if Outdated object stored then .error (.outdated store.resource object.metadata.name)
      else if LacksVersion strategy object then
        .error (store.invalid object.metadata.name
          [FieldError.invalid (FieldPath.metadata "resourceVersion") (.text "")
            "must be specified for an update"])
      else .ok stored.metadata.resourceVersion := by
  unfold replacedVersion Outdated LacksVersion
  by_cases unnamed : object.metadata.resourceVersion = ""
  · by_cases allowed : strategy.allowUnconditionalUpdate = true
    · simp [unnamed, allowed]
    · simp [unnamed, allowed]
  · by_cases same : object.metadata.resourceVersion = stored.metadata.resourceVersion
    · simp [unnamed, ← same]
    · simp [unnamed, same]

/-- An update is refused for its version first and for what its object holds then. -/
theorem replacement_eq (strategy : UpdateStrategy Spec Status) (context : Context)
    (object stored : Object Spec Status) :
    store.replacement strategy context object stored =
      if Outdated object stored then .error (.outdated store.resource object.metadata.name)
      else if LacksVersion strategy object then
        .error (store.invalid object.metadata.name
          [FieldError.invalid (FieldPath.metadata "resourceVersion") (.text "")
            "must be specified for an update"])
      else if store.changeErrors strategy context object stored = [] then
        .ok (stored.metadata.resourceVersion,
          store.finalChange strategy context object stored stored.metadata.resourceVersion)
      else
        .error (store.invalid
          (store.proposed strategy context object stored
            stored.metadata.resourceVersion).metadata.name
          (store.changeErrors strategy context object stored)) := by
  rw [replacement, replacedVersion_eq]
  by_cases outdated : Outdated object stored
  · simp only [if_pos outdated]
  · by_cases lacking : LacksVersion strategy object
    · simp only [if_neg outdated, if_pos lacking]
    · simp only [if_neg outdated, if_neg lacking, List.isEmpty_iff]
      rfl

/-- So its end is known beforehand. -/
theorem replacement_outcome (strategy : UpdateStrategy Spec Status) (context : Context)
    (object stored : Object Spec Status) :
    let outcome := store.replacement strategy context object stored
    let errors := store.changeErrors strategy context object stored
    (FailsAs ApiError.isConflict outcome ↔ Outdated object stored) ∧
    (FailsAs ApiError.isInvalid outcome ↔
      ¬ Outdated object stored ∧ (LacksVersion strategy object ∨ errors ≠ [])) ∧
    ((∃ replaced, outcome = .ok replaced) ↔
      ¬ Outdated object stored ∧ ¬ LacksVersion strategy object ∧ errors = []) := by
  intro outcome errors
  have decided : outcome = _ := replacement_eq strategy context object stored
  rw [decided]
  by_cases outdated : Outdated object stored
  · rw [if_pos outdated]
    simp [outdated, ApiError.outdated, ApiError.isConflict, ApiError.isInvalid]
  · rw [if_neg outdated]
    by_cases lacking : LacksVersion strategy object
    · rw [if_pos lacking]
      simp [outdated, lacking, invalid, ApiError.isConflict, ApiError.isInvalid]
    · rw [if_neg lacking]
      by_cases valid : errors = []
      · rw [if_pos valid]
        simp [outdated, lacking, valid]
      · rw [if_neg valid]
        simp [outdated, lacking, valid, invalid, ApiError.isConflict, ApiError.isInvalid]

/-- What replaces the stored object is made with its version. -/
theorem eq_of_replacement {replacing : Object Spec Status} {version : String}
    (replaced : store.replacement strategy context object stored = .ok (version, replacing)) :
    version = stored.metadata.resourceVersion ∧
      replacing = store.finalChange strategy context object stored
        stored.metadata.resourceVersion := by
  obtain ⟨agreed, _, rfl⟩ := replacement_eq_ok_iff.1 replaced
  obtain ⟨rfl, _⟩ := replacedVersion_eq_ok_iff.1 agreed
  exact ⟨rfl, rfl⟩

/-- Only the checks of the store can refuse a document of the right version. -/
theorem replace_run_of_version (strategy : UpdateStrategy Spec Status) (context : Context)
    (object : Object Spec Status) (found : backend.items.get? key = some current)
    (readable : store.read current = .ok stored)
    (carried : Backend.documentVersion current = stored.metadata.resourceVersion) :
    (store.replace strategy context key object current).AllAnswered backend ∧
    (store.replace strategy context key object current).run backend =
      match store.replacement strategy context object stored with
      | .error error => (.error error, backend)
      | .ok (_, replacing) =>
          (store.read (store.document backend replacing),
            backend.put key (store.document backend replacing)) := by
  unfold replace
  cases replaced : store.replacement strategy context object stored with
  | error error =>
      simp only [readable, replaced]
      exact ⟨.done _ _, rfl⟩
  | ok pair =>
      obtain ⟨version, replacing⟩ := pair
      -- The hooks may give the object any version, but the call expects the one that was checked.
      have same : Backend.documentVersion current = version := by
        rw [carried, (eq_of_replacement replaced).1]
      have answered : backend.answer (.update key (some version) (replacing.write store.kind)) =
          (.ok (store.document backend replacing),
            backend.put key (store.document backend replacing)) := by
        rw [Backend.answer, Backend.update_eq_of_version found same, write_object]
      simp only [readable, replaced, Request.run_call, answered, Request.run_done, readReply]
      exact ⟨.call answered (.done _ _), trivial⟩

variable {space : String}

/-- Three checks, one after the other, settle the update of a stored object. -/
theorem updateWith_run_of_visited (faithful : store.kind.Faithful)
    (visited : store.kind.Visited backend) (strategy : UpdateStrategy Spec Status)
    (settled : store.resolveSpace context object.metadata.space = .ok space)
    (segment : IsSegment object.metadata.name)
    (found : backend.items.get? (store.key space object.metadata.name) = some current) :
    ∃ stored : Object Spec Status, stored.write store.kind = current ∧
      (store.updateWith strategy context object).AllAnswered backend ∧
      (store.updateWith strategy context object).run backend =
        match store.replacement strategy context (object.withSpace space) stored with
        | .error error => (.error error, backend)
        | .ok (_, replacing) =>
            (.ok (replacing.withVersion backend.nextVersion),
              backend.put (store.key space object.metadata.name)
                (store.document backend replacing)) := by
  obtain ⟨stored, rfl⟩ := visited.holds _ _ found
  have readable := read_eq_ok_iff.2 (Object.read_write_of_faithful faithful stored)
  have targeted : store.target context object = .ok (object.withSpace space) :=
    target_eq_ok_iff.2 ⟨segment, space, settled, rfl⟩
  have present : backend.items.get? (store.objectKey (object.withSpace space)) =
      some (stored.write store.kind) := found
  have held : backend.answer (.get (store.objectKey (object.withSpace space))) =
      (.ok (stored.write store.kind), backend) := by
    simp only [Backend.answer, Backend.get, present]
  obtain ⟨answered, run⟩ := replace_run_of_version strategy context (object.withSpace space)
    present readable (Backend.documentVersion_write store.kind stored)
  refine ⟨stored, rfl, ?_, ?_⟩
  · simp only [updateWith, targeted]
    exact .call held answered
  · rw [updateWith_run_of_present strategy context targeted present, run]
    cases store.replacement strategy context (object.withSpace space) stored with
    | error error => rfl
    | ok pair =>
        simp only [read_document faithful]
        rfl

/-- An update ends in a conflict, as invalid or with the next version. -/
theorem update_outcome (faithful : store.kind.Faithful) (visited : store.kind.Visited backend)
    (strategy : UpdateStrategy Spec Status)
    (settled : store.resolveSpace context object.metadata.space = .ok space)
    (segment : IsSegment object.metadata.name)
    (found : backend.items.get? (store.key space object.metadata.name) = some current) :
    ∃ stored : Object Spec Status, Object.read store.kind current = some stored ∧
      let run := (store.updateWith strategy context object).run backend
      let target := object.withSpace space
      let errors := store.changeErrors strategy context target stored
      let changed :=
        store.finalChange strategy context target stored stored.metadata.resourceVersion
      (FailsAs ApiError.isConflict run.1 ↔ Outdated object stored) ∧
      (FailsAs ApiError.isInvalid run.1 ↔
        ¬ Outdated object stored ∧ (LacksVersion strategy object ∨ errors ≠ [])) ∧
      ((∃ result, run.1 = .ok result) ↔
        ¬ Outdated object stored ∧ ¬ LacksVersion strategy object ∧ errors = []) ∧
      (∀ result, run.1 = .ok result → result = changed.withVersion backend.nextVersion ∧
        run.2 = backend.put (store.key space object.metadata.name)
          (store.document backend changed)) ∧
      (store.updateWith strategy context object).AllAnswered backend := by
  obtain ⟨stored, written, answered, ended⟩ :=
    updateWith_run_of_visited faithful visited strategy settled segment found
  refine ⟨stored, written ▸ Object.read_write_of_faithful faithful stored, ?_⟩
  intro run target errors changed
  have mapped : run.1 = (store.replacement strategy context target stored).map
      fun replaced => replaced.2.withVersion backend.nextVersion := by
    refine (congrArg Prod.fst ended).trans ?_
    cases store.replacement strategy context target stored <;> rfl
  obtain ⟨conflict, invalid, success⟩ :=
    @replacement_outcome _ _ store strategy context target stored
  refine ⟨?_, ?_, ?_, ?_, answered⟩
  · rw [mapped, failsAs_map_iff]
    exact conflict
  · rw [mapped, failsAs_map_iff]
    exact invalid
  · rw [mapped]
    refine Iff.trans ?_ success
    cases store.replacement strategy context target stored <;> simp [Except.map]
  · intro result succeeded
    have whole : run = _ := ended
    cases replaced : store.replacement strategy context target stored with
    | error error =>
        rw [mapped, replaced] at succeeded
        cases succeeded
    | ok pair =>
        obtain ⟨version, replacing⟩ := pair
        obtain ⟨rfl, rfl⟩ := eq_of_replacement replaced
        rw [replaced] at whole
        rw [whole] at succeeded ⊢
        exact ⟨(Except.ok.inj succeeded).symm, rfl⟩

section Movers

open Catalog

def plainMover : Mover :=
  { Object.empty mover with metadata := { name := "a" } }

def moverBackend : Backend :=
  ((movers.request (.create insideSpace plainMover)).run .empty).2

theorem moverBackend_visited : mover.Visited moverBackend :=
  .visit movers rfl (.create insideSpace plainMover) .empty

/-- The hook for updates gives this mover another version after the first check. -/
def reversedMover (version : String) : Mover :=
  { plainMover with metadata.resourceVersion := version, spec.reversion := "7" }

/-- An update succeeds if it names the stored version, and only then. -/
theorem reversedMover_outcome :
    let answer (version : String) :=
      ((movers.update insideSpace (reversedMover version)).run moverBackend).1
    (∃ result, answer "1" = .ok result) ∧ FailsAs ApiError.isConflict (answer "7") ∧
      FailsAs ApiError.isInvalid (answer "") := by
  intro answer
  let stored : Mover := (plainMover.withSpace "ns").withVersion "1"
  have found : moverBackend.items.get? (movers.key "ns" "a") = some (stored.write mover) := rfl
  have segment : IsSegment "a" := (isSegment_iff "a").2 (by decide)
  have outcome (version : String) :
      (Outdated (reversedMover version) stored → FailsAs ApiError.isConflict (answer version)) ∧
      (LacksVersion movers.strategy.update (reversedMover version) →
        ¬ Outdated (reversedMover version) stored →
          FailsAs ApiError.isInvalid (answer version)) ∧
      (¬ LacksVersion movers.strategy.update (reversedMover version) →
        ¬ Outdated (reversedMover version) stored → ∃ result, answer version = .ok result) := by
    obtain ⟨read, readable, conflict, invalid, success, _, _⟩ := @update_outcome _ _ movers
      moverBackend insideSpace (reversedMover version) _ "ns" mover_faithful moverBackend_visited
      movers.strategy.update rfl segment found
    obtain rfl : stored = read :=
      Option.some.inj ((Object.read_write_of_faithful mover_faithful stored).symm.trans readable)
    exact ⟨conflict.2, fun refused current => invalid.2 ⟨current, Or.inl refused⟩,
      fun allowed current => success.2 ⟨current, allowed, rfl⟩⟩
  exact ⟨(outcome "1").2.2 (by decide) (by decide), (outcome "7").1 (by decide),
    (outcome "").2.1 (by decide) (by decide)⟩

end Movers

end Store

end ResourceApi
