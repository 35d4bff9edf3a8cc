/-
This file runs calls one after another on a backend that is empty at first. Every write takes a
greater version than all writes before it, so no version is ever given to two documents.
-/

import ResourceApi.Proofs.Backend.Ledger
import ResourceApi.Proofs.Backend.Scan

namespace ResourceApi.Backend

/-- The backend after all calls. -/
def answerAll (backend : Backend) (calls : List Call) : Backend :=
  calls.foldl (fun backend call => (backend.answer call).2) backend

/-- What is overwritten or deleted later stays in this list. -/
def storedBy (backend : Backend) : List Call → List (String × Json)
  | [] => []
  | call :: rest => (backend.stored? call).toList ++ (backend.answer call).2.storedBy rest

theorem storedBy_append (backend : Backend) (first second : List Call) :
    backend.storedBy (first ++ second) =
      backend.storedBy first ++ (backend.answerAll first).storedBy second := by
  induction first generalizing backend with
  | nil => rfl
  | cons call rest inductionHypothesis =>
      have tail := inductionHypothesis (backend.answer call).2
      simp only [List.cons_append, storedBy, tail, List.append_assoc]
      rfl

/-- The ledger stays true over any number of calls. -/
theorem Recorded.answerAll {backend : Backend} {pages : List (String × Json)}
    (recorded : Recorded backend pages) (calls : List Call) :
    Recorded (backend.answerAll calls) (pages ++ backend.storedBy calls) := by
  induction calls generalizing backend pages with
  | nil => simpa [Backend.answerAll, storedBy] using recorded
  | cons call rest inductionHypothesis =>
      have tail := inductionHypothesis (recorded.step call)
      rwa [List.append_assoc] at tail

theorem recorded_answerAll (calls : List Call) :
    Recorded (empty.answerAll calls) (empty.storedBy calls) :=
  recorded_empty.answerAll calls

/-- The first document carries a smaller version than the second. -/
def Precedes (first second : Json) : Prop :=
  ∃ version later, Stamped version first ∧ Stamped later second ∧ version < later

theorem Precedes.documentVersion_ne {first second : Json} (precedes : Precedes first second) :
    documentVersion first ≠ documentVersion second := by
  obtain ⟨version, later, firstStamped, secondStamped, less⟩ := precedes
  intro same
  rw [firstStamped.documentVersion, secondStamped.documentVersion] at same
  have equal := Text.writeNat_injective same
  omega

namespace Recorded

variable {backend : Backend} {pages : List (String × Json)} (recorded : Recorded backend pages)

include recorded

/-- The versions of all pages lie between one and the revision. -/
theorem version_of_mem {key : String} {document : Json} (written : (key, document) ∈ pages) :
    ∃ version, Stamped version document ∧ 1 ≤ version ∧ version ≤ backend.revision := by
  obtain ⟨place, stands⟩ := List.mem_iff_getElem?.1 written
  have inside := (List.getElem?_eq_some_iff.1 stands).1
  have length := recorded.revision
  exact ⟨place + 1, recorded.stamped stands, by omega, by omega⟩

/-- Later pages carry greater versions. -/
theorem pairwise_precedes : pages.Pairwise fun first second => Precedes first.2 second.2 := by
  rw [List.pairwise_iff_getElem]
  intro first second firstInside secondInside less
  have firstStands := List.getElem?_eq_getElem firstInside
  have secondStands := List.getElem?_eq_getElem secondInside
  exact ⟨first + 1, second + 1, recorded.stamped firstStands, recorded.stamped secondStands,
    by omega⟩

theorem mem_of_get? {key : String} {document : Json}
    (holds : backend.items.get? key = some document) : (key, document) ∈ pages := by
  obtain ⟨place, stands, _⟩ := recorded.last holds
  exact List.mem_of_getElem? stands

end Recorded

/-- An attempt that succeeds has written. -/
theorem Attempt.of_ok {backend after : Backend} {key : String} {stored : Json}
    (attempt : backend.Attempt key (.ok stored, after)) :
    Stamped (backend.revision + 1) stored ∧ after = backend.put key stored := by
  rcases attempt with ⟨found, same, stamped⟩ | ⟨cause, same⟩
  · cases same
    exact ⟨stamped, rfl⟩
  · cases same

theorem Attempt.of_error {backend : Backend} {key : String}
    {outcome : Except BackendError Json × Backend} (attempt : backend.Attempt key outcome)
    {cause : BackendError} (failed : outcome.1 = .error cause) : outcome.2 = backend := by
  rcases attempt with ⟨stored, rfl, _⟩ | ⟨_, rfl⟩
  · cases failed
  · rfl

/-- A call that fails changes nothing. -/
theorem answer_eq_of_error {backend : Backend} {call : Call} {cause : BackendError}
    (failed : (backend.answer call).1 = .error cause) : (backend.answer call).2 = backend := by
  cases call with
  | create key document => exact (create_attempt backend key document).of_error failed
  | get key => rfl
  | list root => rfl
  | update key expected document =>
      exact (update_attempt backend key expected document).of_error failed
  | delete key =>
      cases found : backend.items.get? key with
      | none => rw [answer, delete, found]
      | some document =>
          rw [answer, delete, found] at failed
          cases failed

/-- No version is ever given to two documents, and later documents carry greater ones. -/
theorem version_given_once (calls : List Call) :
    let backend := empty.answerAll calls
    let history := empty.storedBy calls
    (∀ key document, backend.items.get? key = some document →
      ∃ version, Stamped version document ∧ 1 ≤ version ∧ version ≤ backend.revision) ∧
    (∀ key document stored after,
      (backend.create key document = (.ok stored, after) ∨
        ∃ expected, backend.update key expected document = (.ok stored, after)) →
      Stamped (backend.revision + 1) stored ∧ after = backend.put key stored) ∧
    (∀ earlier, earlier <+: calls → ∀ key document,
      (empty.answerAll earlier).items.get? key = some document → (key, document) ∈ history) ∧
    history.Pairwise (fun first second => documentVersion first.2 ≠ documentVersion second.2) ∧
    (∀ key old, (key, old) ∈ history → ∀ document created after,
      backend.create key document = (.ok created, after) → Precedes old created) ∧
    (∀ root listing, (backend.answer (.list root)).1 = .ok listing →
      ∃ revision, listing.revision = Text.writeNat revision ∧
        ∀ document ∈ listing.items, ∃ version, Stamped version document ∧ version ≤ revision) ∧
    (∀ call cause, (backend.answer call).1 = .error cause → (backend.answer call).2 = backend) := by
  intro backend history
  have recorded : Recorded backend history := recorded_answerAll calls
  have written {key : String} {document stored : Json} {after : Backend}
      (done : backend.create key document = (.ok stored, after) ∨
        ∃ expected, backend.update key expected document = (.ok stored, after)) :
      Stamped (backend.revision + 1) stored ∧ after = backend.put key stored := by
    rcases done with created | ⟨expected, updated⟩
    · exact (created ▸ create_attempt backend key document).of_ok
    · exact (updated ▸ update_attempt backend key expected document).of_ok
  refine ⟨?_, ?_, ?_, ?_, ?_, ?_, ?_⟩
  · intro key document holds
    exact recorded.version_of_mem (recorded.mem_of_get? holds)
  · intro key document stored after
    exact written
  · intro earlier isPrefix key document holds
    obtain ⟨later, rfl⟩ := isPrefix
    have whole : history = empty.storedBy earlier ++ (empty.answerAll earlier).storedBy later :=
      storedBy_append empty earlier later
    rw [whole]
    exact List.mem_append_left _ ((recorded_answerAll earlier).mem_of_get? holds)
  · exact recorded.pairwise_precedes.imp Precedes.documentVersion_ne
  · intro key old stands document created after done
    obtain ⟨version, stamped, _, bound⟩ := recorded.version_of_mem stands
    exact ⟨version, backend.revision + 1, stamped, (written (Or.inl done)).1, by omega⟩
  · intro root listing listed
    obtain rfl : backend.list root = listing := Except.ok.inj listed
    refine ⟨backend.revision, rfl, ?_⟩
    intro document member
    rw [list_items] at member
    obtain ⟨entry, found, rfl⟩ := List.mem_map.1 member
    have holds := Dict.get?_eq_some_iff.2 (List.mem_filter.1 found).1
    obtain ⟨version, stamped, _, bound⟩ :=
      recorded.version_of_mem (recorded.mem_of_get? holds)
    exact ⟨version, stamped, bound⟩
  · intro call cause
    exact answer_eq_of_error

section Sample

def claimedSeven : Json :=
  .object [("metadata", .object [("resourceVersion", .text "7")])]

/-- A key that is created again goes on with a greater version. -/
theorem recreated_document_is_later :
    ∃ old created after,
      ("a", old) ∈ empty.storedBy [.create "a" claimedSeven, .delete "a"] ∧
      (empty.answerAll [.create "a" claimedSeven, .delete "a"]).create "a" claimedSeven =
        (.ok created, after) ∧
      Precedes old created ∧ documentVersion old = "1" ∧ documentVersion created = "2" := by
  obtain ⟨old, created, after, stored, again, first, second⟩ :
      ∃ old created after,
        empty.storedBy [.create "a" claimedSeven, .delete "a"] = [("a", old)] ∧
        (empty.answerAll [.create "a" claimedSeven, .delete "a"]).create "a" claimedSeven =
          (.ok created, after) ∧ documentVersion old = "1" ∧ documentVersion created = "2" :=
    ⟨_, _, _, rfl, rfl, rfl, rfl⟩
  obtain ⟨_, _, _, _, later, _⟩ := version_given_once [.create "a" claimedSeven, .delete "a"]
  have listed : ("a", old) ∈ empty.storedBy [.create "a" claimedSeven, .delete "a"] := by
    rw [stored]
    exact List.mem_singleton_self _
  exact ⟨old, created, after, listed, again, later "a" old listed claimedSeven created after again,
    first, second⟩

end Sample

end ResourceApi.Backend
