/-
This file says once what each call does to a backend. All that is proved about runs of calls
follows from that.
-/

import ResourceApi.Backend.Call
import ResourceApi.Proofs.Object

namespace ResourceApi

namespace Request

variable {Answer Result : Type}

@[simp] theorem run_done (backend : Backend) (answer : Answer) :
    (Request.done answer).run backend = (answer, backend) := rfl

@[simp] theorem run_call (backend : Backend) (made : Call)
    (next : Except BackendError made.Reply → Request Answer) :
    (Request.call made next).run backend =
      (next (backend.answer made).1).run (backend.answer made).2 := rfl

/-- A change of the answer changes nothing else. -/
theorem run_map (request : Request Answer) (change : Answer → Result) (backend : Backend) :
    (request.map change).run backend =
      (change (request.run backend).1, (request.run backend).2) := by
  induction request generalizing backend with
  | done answer => rfl
  | call made next inductionHypothesis => exact inductionHypothesis _ _

end Request

namespace Backend

/-- The document is stored as it is, and the backend takes the next revision. -/
def put (backend : Backend) (key : String) (document : Json) : Backend :=
  ⟨backend.revision + 1, backend.items.insert key document⟩

def remove (backend : Backend) (key : String) : Backend :=
  { backend with items := backend.items.erase key }

section Fields

variable (backend : Backend) (key sought : String) (document : Json)

@[simp] theorem put_revision : (backend.put key document).revision = backend.revision + 1 := rfl

@[simp] theorem put_get? : (backend.put key document).items.get? sought =
    if sought = key then some document else backend.items.get? sought :=
  Dict.get?_insert backend.items key sought document

@[simp] theorem remove_revision : (backend.remove key).revision = backend.revision := rfl

@[simp] theorem remove_get? : (backend.remove key).items.get? sought =
    if sought = key then none else backend.items.get? sought :=
  Dict.get?_erase backend.items key sought

end Fields

/-- The text of the revision that the next write takes. -/
def nextVersion (backend : Backend) : String :=
  Text.writeNat (backend.revision + 1)

variable {backend : Backend} {key : String} {document stored : Json}

/-- The document is stored with the next revision, or nothing changes. -/
def Attempt (backend : Backend) (key : String) (outcome : Except BackendError Json × Backend) :
    Prop :=
  (∃ stored, outcome = (.ok stored, backend.put key stored) ∧
    Stamped (backend.revision + 1) stored) ∨
  (∃ cause, outcome = (.error cause, backend))

theorem write_eq_of_stamp (stamped : stamp (backend.revision + 1) document = some stored) :
    backend.write key document = (.ok stored, backend.put key stored) := by
  rw [write, stamped]
  rfl

theorem write_ok (done : (backend.write key document).1 = .ok stored) :
    stamp (backend.revision + 1) document = some stored := by
  unfold write at done
  split at done
  · cases done
  next stamped =>
    cases done
    exact stamped

theorem write_attempt (backend : Backend) (key : String) (document : Json) :
    backend.Attempt key (backend.write key document) := by
  cases stamped : stamp (backend.revision + 1) document with
  | none => exact Or.inr ⟨withoutMetadata key, by rw [write, stamped]⟩
  | some stored => exact Or.inl ⟨stored, write_eq_of_stamp stamped, stamped_of_stamp stamped⟩

theorem create_eq_of_absent (absent : backend.items.get? key = none) :
    backend.create key document = backend.write key document := by
  rw [create, Dict.contains_eq_false_iff.2 absent]
  rfl

theorem create_eq_of_present (present : backend.items.get? key = some stored) :
    backend.create key document = (.error (.alreadyExists key), backend) := by
  rw [create, Dict.contains_eq_true_iff.2 ⟨stored, present⟩]
  rfl

theorem create_attempt (backend : Backend) (key : String) (document : Json) :
    backend.Attempt key (backend.create key document) := by
  cases found : backend.items.get? key with
  | none =>
      rw [create_eq_of_absent found]
      exact write_attempt backend key document
  | some current => exact Or.inr ⟨_, create_eq_of_present found⟩

theorem update_eq_of_absent {expected : Option String}
    (absent : backend.items.get? key = none) :
    backend.update key expected document = (.error (.notFound key), backend) := by
  rw [update, absent]

theorem update_eq_of_version {version : String} {current : Json}
    (present : backend.items.get? key = some current)
    (same : documentVersion current = version) :
    backend.update key (some version) document = backend.write key document := by
  simp only [update, present, same, if_true]

theorem update_eq_of_conflict {version : String} {current : Json}
    (present : backend.items.get? key = some current)
    (other : documentVersion current ≠ version) :
    backend.update key (some version) document =
      (.error (.conflict key version (documentVersion current)), backend) := by
  simp only [update, present, other, if_false]

theorem update_attempt (backend : Backend) (key : String) (expected : Option String)
    (document : Json) : backend.Attempt key (backend.update key expected document) := by
  cases found : backend.items.get? key with
  | none => exact Or.inr ⟨_, update_eq_of_absent found⟩
  | some current =>
      cases expected with
      | none =>
          have unconditional : backend.update key none document = backend.write key document := by
            rw [update, found]
          rw [unconditional]
          exact write_attempt backend key document
      | some version =>
          by_cases same : documentVersion current = version
          · rw [update_eq_of_version found same]
            exact write_attempt backend key document
          · exact Or.inr ⟨_, update_eq_of_conflict found same⟩

/-- An update that names a version succeeds only over a document that carries it. -/
theorem update_ok {version : String}
    (done : (backend.update key (some version) document).1 = .ok stored) :
    ∃ current, backend.items.get? key = some current ∧ documentVersion current = version ∧
      stamp (backend.revision + 1) document = some stored := by
  cases found : backend.items.get? key with
  | none => simp [update_eq_of_absent found] at done
  | some current =>
      by_cases same : documentVersion current = version
      · rw [update_eq_of_version found same] at done
        exact ⟨current, rfl, same, write_ok done⟩
      · simp [update_eq_of_conflict found same] at done

/-- This is the key and the document that the call stores, if it stores one. -/
def stored? (backend : Backend) : Call → Option (String × Json)
  | .create key document => (backend.create key document).1.toOption.map fun stored => (key, stored)
  | .update key expected document =>
      (backend.update key expected document).1.toOption.map fun stored => (key, stored)
  | .get _ | .list _ | .delete _ => none

/-- A call writes a document, or removes one, or changes nothing. -/
theorem answer_cases (backend : Backend) (call : Call) :
    (∃ key stored, backend.stored? call = some (key, stored) ∧
      Stamped (backend.revision + 1) stored ∧
      (backend.answer call).2 = backend.put key stored) ∨
    (backend.stored? call = none ∧ (backend.answer call).2 = backend) ∨
    (∃ key, call = .delete key ∧ backend.stored? call = none ∧
      (backend.answer call).2 = backend.remove key) := by
  cases call with
  | create key document =>
      rcases create_attempt backend key document with ⟨stored, equal, stamped⟩ | ⟨cause, equal⟩
      · exact Or.inl ⟨key, stored, by simp [stored?, equal, Except.toOption], stamped,
          by rw [answer, equal]⟩
      · exact Or.inr (Or.inl ⟨by simp [stored?, equal, Except.toOption], by rw [answer, equal]⟩)
  | get key => exact Or.inr (Or.inl ⟨rfl, rfl⟩)
  | list root => exact Or.inr (Or.inl ⟨rfl, rfl⟩)
  | update key expected document =>
      rcases update_attempt backend key expected document with
        ⟨stored, equal, stamped⟩ | ⟨cause, equal⟩
      · exact Or.inl ⟨key, stored, by simp [stored?, equal, Except.toOption], stamped,
          by rw [answer, equal]⟩
      · exact Or.inr (Or.inl ⟨by simp [stored?, equal, Except.toOption], by rw [answer, equal]⟩)
  | delete key =>
      cases found : backend.items.get? key with
      | none => exact Or.inr (Or.inl ⟨rfl, by rw [answer, delete, found]⟩)
      | some current => exact Or.inr (Or.inr ⟨key, rfl, rfl, by rw [answer, delete, found]; rfl⟩)

end Backend

end ResourceApi
