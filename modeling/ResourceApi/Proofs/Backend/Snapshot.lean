/-
This file says what the version of a listing tells about the calls since an earlier one. It counts
the documents that were stored, so a deletion does not show in it.
-/

import ResourceApi.Proofs.Backend.History

namespace ResourceApi.Backend

/-- This is the key that the call deletes, if it deletes one. -/
def deleted? (backend : Backend) : Call → Option String
  | .delete key => (backend.delete key).1.toOption.map fun _ => key
  | .create .. | .get _ | .list _ | .update .. => none

/-- All keys that the calls delete, in their order. -/
def deletedBy (backend : Backend) : List Call → List String
  | [] => []
  | call :: rest => (backend.deleted? call).toList ++ (backend.answer call).2.deletedBy rest

section Step

variable (backend : Backend) (call : Call)

/-- Only a stored document takes a revision. -/
theorem answer_revision :
    (backend.answer call).2.revision =
      backend.revision + (backend.stored? call).toList.length := by
  rcases answer_cases backend call with
    ⟨key, document, stores, _, after⟩ | ⟨nothing, after⟩ | ⟨key, _, nothing, after⟩
  · rw [stores, after]
    rfl
  · rw [nothing, after]
    rfl
  · rw [nothing, after]
    rfl

variable {backend call}

theorem answer_eq_of_nothing (nothing : backend.stored? call = none)
    (noDeletion : ∀ key, call ≠ .delete key) : (backend.answer call).2 = backend := by
  rcases answer_cases backend call with
    ⟨key, document, stores, _, _⟩ | ⟨_, after⟩ | ⟨key, deletes, _, _⟩
  · rw [nothing] at stores
    cases stores
  · exact after
  · exact absurd deletes (noDeletion key)

/-- A call that stores nothing deletes a held key or changes nothing. -/
theorem deletion_cases (nothing : backend.stored? call = none) :
    (backend.deleted? call = none ∧ (backend.answer call).2 = backend) ∨
    (∃ key document, backend.deleted? call = some key ∧
      backend.items.get? key = some document ∧ (backend.answer call).2 = backend.remove key) := by
  cases call with
  | delete key =>
      cases found : backend.items.get? key with
      | none =>
          refine Or.inl ⟨?_, by rw [answer, delete, found]⟩
          rw [deleted?, delete, found]
          rfl
      | some document =>
          refine Or.inr ⟨key, document, ?_, found, by rw [answer, delete, found]; rfl⟩
          rw [deleted?, delete, found]
          rfl
  | create key document => exact Or.inl ⟨rfl, answer_eq_of_nothing nothing (by simp)⟩
  | get key => exact Or.inl ⟨rfl, rfl⟩
  | list root => exact Or.inl ⟨rfl, rfl⟩
  | update key expected document => exact Or.inl ⟨rfl, answer_eq_of_nothing nothing (by simp)⟩

theorem mem_deleted?_held {key : String} (nothing : backend.stored? call = none)
    (deleted : key ∈ (backend.deleted? call).toList) :
    ∃ document, backend.items.get? key = some document := by
  rw [Option.mem_toList] at deleted
  rcases deletion_cases nothing with ⟨kept, _⟩ | ⟨other, document, removed, held, _⟩
  · rw [kept] at deleted
    cases deleted
  · rw [removed] at deleted
    cases deleted
    exact ⟨document, held⟩

/-- Without the key that it deletes, all entries stay. -/
theorem answer_entries (nothing : backend.stored? call = none) :
    (backend.answer call).2.items.entries =
      backend.items.entries.filter fun entry => entry.1 ∉ (backend.deleted? call).toList := by
  rcases deletion_cases nothing with ⟨kept, after⟩ | ⟨key, document, removed, _, after⟩
  · rw [after, kept]
    exact (List.filter_eq_self.2 fun entry _ => by simp).symm
  · rw [after, removed]
    refine List.filter_congr fun entry _ => ?_
    simp [BEq.beq]

end Step

section Run

variable {backend : Backend} {calls : List Call}

theorem storedBy_cons_eq_nil_iff {call : Call} {rest : List Call} :
    backend.storedBy (call :: rest) = [] ↔
      backend.stored? call = none ∧ (backend.answer call).2.storedBy rest = [] := by
  rw [storedBy, List.append_eq_nil_iff, Option.toList_eq_nil_iff]

/-- The revision counts what is stored. -/
theorem answerAll_revision (backend : Backend) (calls : List Call) :
    (backend.answerAll calls).revision = backend.revision + (backend.storedBy calls).length := by
  induction calls generalizing backend with
  | nil => rfl
  | cons call rest inductionHypothesis =>
      have tail := inductionHypothesis (backend.answer call).2
      rw [answer_revision] at tail
      rw [storedBy, List.length_append, ← Nat.add_assoc, ← tail]
      rfl

theorem held_of_mem_deletedBy (nothing : backend.storedBy calls = []) {key : String}
    (deleted : key ∈ backend.deletedBy calls) :
    ∃ document, (key, document) ∈ backend.items.entries := by
  induction calls generalizing backend with
  | nil => cases deleted
  | cons call rest inductionHypothesis =>
      obtain ⟨here, behind⟩ := storedBy_cons_eq_nil_iff.1 nothing
      rcases List.mem_append.1 deleted with now | later
      · obtain ⟨document, held⟩ := mem_deleted?_held here now
        exact ⟨document, Dict.get?_eq_some_iff.1 held⟩
      · obtain ⟨document, held⟩ := inductionHypothesis behind later
        rw [answer_entries here] at held
        exact ⟨document, (List.mem_filter.1 held).1⟩

/-- Where nothing was stored, all entries stay but those of the deleted keys. -/
theorem answerAll_entries (nothing : backend.storedBy calls = []) :
    (backend.answerAll calls).items.entries =
      backend.items.entries.filter fun entry => entry.1 ∉ backend.deletedBy calls := by
  induction calls generalizing backend with
  | nil => exact (List.filter_eq_self.2 fun entry _ => by simp [deletedBy]).symm
  | cons call rest inductionHypothesis =>
      obtain ⟨here, behind⟩ := storedBy_cons_eq_nil_iff.1 nothing
      have tail := inductionHypothesis behind
      rw [answer_entries here, List.filter_filter] at tail
      refine tail.trans (List.filter_congr fun entry _ => ?_)
      rw [deletedBy]
      simp only [List.mem_append, not_or, Bool.decide_and]
      rw [Bool.and_comm]

theorem answerAll_below (nothing : backend.storedBy calls = []) (root : String) :
    (backend.answerAll calls).below root =
      (backend.below root).filter fun entry => entry.1 ∉ backend.deletedBy calls := by
  rw [below, below, answerAll_entries nothing, List.filter_filter, List.filter_filter]
  exact List.filter_congr fun entry _ => Bool.and_comm ..

/-- All below the root stays exactly if no deleted key begins with it. -/
theorem kept_below_iff (nothing : backend.storedBy calls = []) {root : String} :
    (∀ entry ∈ backend.below root, entry.1 ∉ backend.deletedBy calls) ↔
      ∀ key ∈ backend.deletedBy calls, Text.startsWith key root = false := by
  constructor
  · intro kept key deleted
    obtain ⟨document, held⟩ := held_of_mem_deletedBy nothing deleted
    refine Bool.eq_false_iff.2 fun begins => ?_
    exact kept (key, document) (List.mem_filter.2 ⟨held, begins⟩) deleted
  · intro elsewhere entry inside deleted
    have begins := (List.mem_filter.1 inside).2
    rw [elsewhere entry.1 deleted] at begins
    cases begins

end Run

/-- Listings carry the same version exactly if nothing was stored between them. -/
theorem listing_version_counts_stores (backend : Backend) (calls : List Call) (root : String) :
    let later := backend.answerAll calls
    ((later.list root).revision = (backend.list root).revision ↔ backend.storedBy calls = []) ∧
    ((later.list root).revision = (backend.list root).revision →
      (later.list root).items = ((backend.below root).filter fun entry =>
        entry.1 ∉ backend.deletedBy calls).map Prod.snd ∧
      ((later.list root).items = (backend.list root).items ↔
        ∀ key ∈ backend.deletedBy calls, Text.startsWith key root = false) ∧
      ((later.list root).items = (backend.list root).items ↔
        (later.list root).items.length = (backend.list root).items.length)) := by
  intro later
  have unmoved : (later.list root).revision = (backend.list root).revision ↔
      backend.storedBy calls = [] := by
    have counted : later.revision = backend.revision + (backend.storedBy calls).length :=
      answerAll_revision backend calls
    rw [← List.length_eq_zero_iff]
    constructor
    · intro same
      have equal : later.revision = backend.revision := Text.writeNat_injective same
      omega
    · intro none
      rw [list, list, counted, none, Nat.add_zero]
  refine ⟨unmoved, fun same => ?_⟩
  have nothing := unmoved.1 same
  have items : (later.list root).items = ((backend.below root).filter fun entry =>
      entry.1 ∉ backend.deletedBy calls).map Prod.snd := by
    rw [list_items, ← answerAll_below nothing]
    rfl
  have earlier : (backend.list root).items = (backend.below root).map Prod.snd := list_items ..
  have asMany : (later.list root).items.length = (backend.list root).items.length ↔
      ∀ entry ∈ backend.below root, entry.1 ∉ backend.deletedBy calls := by
    rw [items, earlier, List.length_map, List.length_map, List.length_filter_eq_length_iff]
    simp
  have sameItems : (later.list root).items = (backend.list root).items ↔
      (later.list root).items.length = (backend.list root).items.length := by
    refine ⟨congrArg List.length, fun many => ?_⟩
    rw [items, earlier, List.filter_eq_self.2]
    simpa using asMany.1 many
  refine ⟨items, ?_, sameItems⟩
  rw [sameItems, asMany, kept_below_iff nothing]

/-- A deletion takes a document from the listing and leaves its version. -/
theorem deletion_keeps_listing_version :
    let document := Json.object [("metadata", .object [("name", .text "x")])]
    let backend := empty.answerAll [.create "/a/x" document]
    let later := backend.answerAll [.delete "/a/x"]
    (later.list "/a/").revision = (backend.list "/a/").revision ∧
    (later.list "/a/").items ≠ (backend.list "/a/").items := by
  intro document backend later
  obtain ⟨unmoved, since⟩ := listing_version_counts_stores backend [.delete "/a/x"] "/a/"
  have same : (later.list "/a/").revision = (backend.list "/a/").revision := unmoved.2 rfl
  have deleted : "/a/x" ∈ backend.deletedBy [.delete "/a/x"] := by decide +kernel
  have below : Text.startsWith "/a/x" "/a/" = true := by decide +kernel
  refine ⟨same, fun kept => ?_⟩
  have elsewhere := (since same).2.1.1 kept "/a/x" deleted
  rw [below] at elsewhere
  cases elsewhere

end ResourceApi.Backend
