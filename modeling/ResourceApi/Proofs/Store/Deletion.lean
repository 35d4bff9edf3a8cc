/-
This file compares deletions with lookups. They answer the same, but a deletion has removed the
document before it is known whether the kind can read it.
-/

import ResourceApi.Proofs.Store.Listing
import ResourceApi.Proofs.Store.StatusSplit

namespace ResourceApi.Store

variable {Spec Status : Type} {store : Store Spec Status} {backend : Backend} {context : Context}
  {address : Address}

/-- There was a document under the key. It is gone, and nothing else has changed. -/
structure Removed (backend after : Backend) (key : String) : Prop where
  held : ∃ document, backend.items.get? key = some document
  gone : after.items.get? key = none
  others : ∀ other, other ≠ key → after.items.get? other = backend.items.get? other
  revision : after.revision = backend.revision

theorem Removed.ne {after : Backend} {key : String} (removed : Removed backend after key) :
    after ≠ backend := by
  intro same
  obtain ⟨document, held⟩ := removed.held
  rw [← same, removed.gone] at held
  cases held

theorem removed_of_held {key : String} {document : Json}
    (held : backend.items.get? key = some document) : Removed backend (backend.remove key) key where
  held := ⟨document, held⟩
  gone := by simp
  others other different := by simp [different]
  revision := rfl

/-- The address leads to a document that the kind cannot read. -/
def Unreadable (store : Store Spec Status) (backend : Backend) (context : Context)
    (address : Address) : Prop :=
  ∃ key document, store.addressKey context address = .ok key ∧
    backend.items.get? key = some document ∧ Object.read store.kind document = none

/-- Stores of a faithful kind leave no such documents behind. -/
theorem not_unreadable (faithful : store.kind.Faithful) (visited : store.kind.Visited backend) :
    ¬ store.Unreadable backend context address := by
  rintro ⟨key, document, _, held, unread⟩
  obtain ⟨object, rfl⟩ := visited.holds key document held
  rw [Object.read_write_of_faithful faithful] at unread
  cases unread

/-- Both requests ask for one document and read it in one way. -/
theorem delete_answer_eq (store : Store Spec Status) (backend : Backend) (context : Context)
    (address : Address) :
    ((store.delete context address).run backend).1 =
      ((store.get context address).run backend).1 := by
  unfold delete get
  cases store.addressKey context address with
  | error error => rfl
  | ok key =>
      show store.readReply address.name (backend.delete key).1 =
        store.readReply address.name (backend.get key)
      unfold Backend.delete Backend.get
      cases backend.items.get? key <;> rfl

theorem read_eq_error_iff {document : Json} {error : ApiError} :
    store.read document = .error error ↔
      Object.read store.kind document = none ∧ error = .json := by
  unfold read
  cases Object.read store.kind document <;> simp [eq_comm]

/-- What cannot be read is removed all the same. -/
theorem Unreadable.delete_run (unreadable : store.Unreadable backend context address) :
    let run := (store.delete context address).run backend
    run.1 = .error .json ∧
      ∃ key, store.addressKey context address = .ok key ∧ Removed backend run.2 key := by
  obtain ⟨key, document, addressed, held, unread⟩ := unreadable
  have answer : store.read document = .error .json := read_eq_error_iff.2 ⟨unread, rfl⟩
  rw [delete_run_of_held addressed held]
  exact ⟨answer, key, addressed, removed_of_held held⟩

/-- Where an object is answered, there was a document. -/
theorem removed_of_delete_ok {object : Object Spec Status}
    (answered : ((store.delete context address).run backend).1 = .ok object) :
    ∃ key, store.addressKey context address = .ok key ∧
      Removed backend ((store.delete context address).run backend).2 key := by
  rcases delete_cases context address backend with
    ⟨error, failed⟩ | ⟨key, document, addressed, held, ended⟩
  · rw [failed] at answered
    cases answered
  · rw [ended]
    exact ⟨key, addressed, removed_of_held held⟩

theorem delete_unchanged_iff {error : ApiError}
    (answered : ((store.delete context address).run backend).1 = .error error) :
    ((store.delete context address).run backend).2 = backend ↔
      ¬ store.Unreadable backend context address := by
  constructor
  · intro same unreadable
    obtain ⟨_, key, _, removed⟩ := unreadable.delete_run
    exact removed.ne same
  · intro readable
    rcases delete_cases context address backend with
      ⟨_, failed⟩ | ⟨key, document, addressed, held, ended⟩
    · exact congrArg Prod.snd failed
    · rw [ended] at answered
      exact absurd ⟨key, document, addressed, held, (read_eq_error_iff.1 answered).1⟩ readable

/-- A deletion that fails changes nothing, unless the document cannot be read. -/
theorem delete_answers_as_get (store : Store Spec Status) (backend : Backend) (context : Context)
    (address : Address) :
    let found := ((store.get context address).run backend).1
    let run := (store.delete context address).run backend
    run.1 = found ∧
    (∀ object, run.1 = .ok object →
      ∃ key, store.addressKey context address = .ok key ∧ Removed backend run.2 key) ∧
    (∀ error, run.1 = .error error →
      (run.2 = backend ↔ ¬ store.Unreadable backend context address)) ∧
    (store.Unreadable backend context address → run.1 = .error .json ∧
      ∃ key, store.addressKey context address = .ok key ∧ Removed backend run.2 key) ∧
    (store.kind.Faithful → store.kind.Visited backend →
      ¬ store.Unreadable backend context address) := by
  intro found run
  refine ⟨delete_answer_eq store backend context address, ?_, ?_, ?_, not_unreadable⟩
  · intro object answered
    exact removed_of_delete_ok answered
  · intro error answered
    exact delete_unchanged_iff answered
  · intro unreadable
    exact unreadable.delete_run

section Bars

open Catalog

/-- A gadget stands where bars are kept. -/
def straysBackend : Backend :=
  Backend.empty.put (bars.key "b" "a") (gadgets.document .empty storedGadget)

/-- The deletion fails, and yet the gadget is gone. -/
theorem stray_lost :
    ((bars.get {} ⟨"a", "b"⟩).run straysBackend).1 = .error .json ∧
    ((bars.delete {} ⟨"a", "b"⟩).run straysBackend).1 = .error .json ∧
    ((bars.delete {} ⟨"a", "b"⟩).run straysBackend).2 ≠ straysBackend := by
  have unreadable : bars.Unreadable straysBackend {} ⟨"a", "b"⟩ := ⟨_, _, rfl, rfl, rfl⟩
  obtain ⟨same, _, _, lost, _⟩ := delete_answers_as_get bars straysBackend {} ⟨"a", "b"⟩
  obtain ⟨failed, key, _, removed⟩ := lost unreadable
  exact ⟨same.symm.trans failed, failed, removed.ne⟩

end Bars

end ResourceApi.Store
