/-
This file divides a backend by the starts of its keys. A request whose calls all stand below one
root leaves alone what stands elsewhere, and a lookup or a listing depends on nothing but what
stands below its own root.
-/

import ResourceApi.Proofs.Backend.Effect
import ResourceApi.Proofs.Backend.Scan
import ResourceApi.Proofs.Text.Slash

namespace ResourceApi

namespace Backend

variable {backend first second : Backend} {key root : String}

/-- A call stores nothing but under its own key. -/
theorem key_of_stored? {call : Call} {stored : Json}
    (stores : backend.stored? call = some (key, stored)) : key = call.key := by
  cases call with
  | get key => cases stores
  | list root => cases stores
  | delete key => cases stores
  | create key document =>
      obtain ⟨written, _, pair⟩ := Option.map_eq_some_iff.1 stores
      exact (Prod.mk.inj pair).1.symm
  | update key expected document =>
      obtain ⟨written, _, pair⟩ := Option.map_eq_some_iff.1 stores
      exact (Prod.mk.inj pair).1.symm

/-- A call does not touch what stands under other keys. -/
theorem answer_get?_of_ne (backend : Backend) {call : Call} (elsewhere : key ≠ call.key) :
    (backend.answer call).2.items.get? key = backend.items.get? key := by
  rcases answer_cases backend call with
    ⟨written, stored, stores, _, after⟩ | ⟨_, after⟩ | ⟨removed, rfl, _, after⟩
  · obtain rfl := key_of_stored? stores
    rw [after, put_get?, if_neg elsewhere]
  · rw [after]
  · have other : key ≠ removed := elsewhere
    rw [after, remove_get?, if_neg other]

/-- The backends hold the same documents below the root. -/
def SameBelow (root : String) (first second : Backend) : Prop :=
  ∀ key, Text.startsWith key root = true → first.items.get? key = second.items.get? key

theorem SameBelow.get (same : SameBelow root first second)
    (below : Text.startsWith key root = true) : first.get key = second.get key := by
  rw [Backend.get, Backend.get, same key below]

/-- The revision may differ, but what is listed does not. -/
theorem SameBelow.list_items (same : SameBelow root first second) {start : String}
    (below : Text.startsWith start root = true) :
    (first.list start).items = (second.list start).items := by
  rw [Backend.list_items, Backend.list_items]
  congr 1
  refine Entries.eq_of_find? (first.items.increasing.filter _) (second.items.increasing.filter _)
    fun key => ?_
  rw [Entries.find?_filter fun key => Text.startsWith key start,
    Entries.find?_filter fun key => Text.startsWith key start]
  split
  next begins => exact same key (Text.startsWith_trans begins below)
  · rfl

/-- A call below one root changes nothing below a root apart from that. -/
theorem answer_sameBelow {call : Call} {other : String}
    (below : Text.startsWith call.key root = true) (apart : Text.Apart root other)
    (backend : Backend) : SameBelow other (backend.answer call).2 backend := by
  intro key inside
  refine answer_get?_of_ne backend ?_
  rintro rfl
  rw [apart call.key below] at inside
  cases inside

/-- This is the part of the backend below the root. -/
def within (backend : Backend) (root : String) : Backend :=
  ⟨backend.revision, ⟨backend.below root, backend.items.increasing.filter _⟩⟩

theorem within_get? (backend : Backend) (root key : String) :
    (backend.within root).items.get? key =
      if Text.startsWith key root = true then backend.items.get? key else none :=
  Entries.find?_filter (fun key => Text.startsWith key root) key backend.items.entries

theorem within_sameBelow (backend : Backend) (root : String) :
    SameBelow root (backend.within root) backend := by
  intro key below
  rw [within_get?, if_pos below]

/-- Backends that hold the same documents below the root have the same part below it. -/
theorem SameBelow.within_items (same : SameBelow root first second) :
    (first.within root).items = (second.within root).items := by
  refine Dict.eq_of_get? fun key => ?_
  rw [within_get?, within_get?]
  split
  next below => exact same key below
  · rfl

theorem put_within (below : Text.startsWith key root = true) (document : Json) :
    (backend.within root).put key document = (backend.put key document).within root := by
  refine congrArg (Backend.mk _) (Dict.eq_of_get? fun sought => ?_)
  have held := put_get? (backend.within root) key sought document
  have kept := within_get? (backend.put key document) root sought
  rw [put_get?] at kept
  refine held.trans (Eq.trans ?_ kept.symm)
  by_cases same : sought = key
  · simp [same, below]
  · simp [same, within_get?]

theorem remove_within (backend : Backend) (root key : String) :
    (backend.within root).remove key = (backend.remove key).within root := by
  refine congrArg (Backend.mk _) (Dict.eq_of_get? fun sought => ?_)
  have held := remove_get? (backend.within root) key sought
  have kept := within_get? (backend.remove key) root sought
  rw [remove_get?] at kept
  refine held.trans (Eq.trans ?_ kept.symm)
  by_cases same : sought = key
  · simp [same]
  · simp [same, within_get?]

theorem write_within (below : Text.startsWith key root = true) (document : Json) :
    (backend.within root).write key document =
      ((backend.write key document).1, (backend.write key document).2.within root) := by
  cases stamped : stamp (backend.revision + 1) document with
  | none =>
      have again : stamp ((backend.within root).revision + 1) document = none := stamped
      rw [write, write, stamped, again]
  | some stored =>
      have again : stamp ((backend.within root).revision + 1) document = some stored := stamped
      rw [write_eq_of_stamp stamped, write_eq_of_stamp again, put_within below]

/-- A call below the root does the same in the part below it. -/
theorem answer_within {call : Call} (below : Text.startsWith call.key root = true) :
    (backend.within root).answer call =
      ((backend.answer call).1, (backend.answer call).2.within root) := by
  have same := within_sameBelow backend root
  cases call with
  | create key document =>
      have held := same key below
      cases found : backend.items.get? key with
      | none =>
          rw [answer, answer, create_eq_of_absent found, create_eq_of_absent (held.trans found)]
          exact write_within below document
      | some current =>
          rw [answer, answer, create_eq_of_present found,
            create_eq_of_present (held.trans found)]
  | get key => exact congrArg (·, backend.within root) (same.get below)
  | list start =>
      have listed : (backend.within root).list start = backend.list start :=
        congrArg (Listing.mk · (Text.writeNat backend.revision)) (same.list_items below)
      exact congrArg (Except.ok ·, backend.within root) listed
  | update key expected document =>
      have held := same key below
      cases found : backend.items.get? key with
      | none =>
          rw [answer, answer, update_eq_of_absent found, update_eq_of_absent (held.trans found)]
      | some current =>
          cases expected with
          | none =>
              simp only [answer, update, held, found]
              exact write_within below document
          | some version =>
              by_cases agrees : documentVersion current = version
              · rw [answer, answer, update_eq_of_version found agrees,
                  update_eq_of_version (held.trans found) agrees]
                exact write_within below document
              · rw [answer, answer, update_eq_of_conflict found agrees,
                  update_eq_of_conflict (held.trans found) agrees]
  | delete key =>
      have held := same key below
      cases found : backend.items.get? key with
      | none => simp only [answer, delete, held, found]
      | some current =>
          simp only [answer, delete, held, found]
          exact congrArg (Except.ok current, ·) (remove_within backend root key)

end Backend

namespace Request

variable {Answer Result : Type} {root other : String}

/-- Every call of the request, whatever it is answered, has a key below the root. -/
def StaysBelow (root : String) : Request Answer → Prop
  | .done _ => True
  | .call made next =>
      Text.startsWith made.key root = true ∧ ∀ reply, (next reply).StaysBelow root

theorem StaysBelow.map {request : Request Answer} (below : request.StaysBelow root)
    (change : Answer → Result) : (request.map change).StaysBelow root := by
  induction request with
  | done answer => exact trivial
  | call made next inductionHypothesis =>
      exact ⟨below.1, fun reply => inductionHypothesis reply (below.2 reply)⟩

/-- A request leaves alone what stands below a root apart from its own. -/
theorem StaysBelow.sameBelow {request : Request Answer} (below : request.StaysBelow root)
    (apart : Text.Apart root other) (backend : Backend) :
    Backend.SameBelow other (request.run backend).2 backend := by
  intro key inside
  induction request generalizing backend with
  | done answer => rfl
  | call made next inductionHypothesis =>
      rw [run_call, inductionHypothesis _ (below.2 _)]
      exact Backend.answer_sameBelow below.1 apart backend key inside

/-- A request below a root does the same in the part below it. -/
theorem StaysBelow.run_within {request : Request Answer} (below : request.StaysBelow root)
    (backend : Backend) :
    request.run (backend.within root) =
      ((request.run backend).1, (request.run backend).2.within root) := by
  induction request generalizing backend with
  | done answer => rfl
  | call made next inductionHypothesis =>
      rw [run_call, run_call, Backend.answer_within below.1]
      exact inductionHypothesis _ (below.2 _) _

end Request

end ResourceApi
