/-
This file keeps a ledger of all documents that a backend ever stored. Versions number its pages,
so a version stands for one document under one key for all time.
-/

import ResourceApi.Proofs.Backend.Effect

namespace ResourceApi

universe u

/-- What stands in a longer list stood there before, or is the element that was added. -/
theorem getElem?_concat_cases {Element : Type u} {list : List Element} {last found : Element}
    {place : Nat} (stands : (list ++ [last])[place]? = some found) :
    (list[place]? = some found) ∨ (place = list.length ∧ found = last) := by
  by_cases earlier : place < list.length
  · rw [List.getElem?_append_left earlier] at stands
    exact Or.inl stands
  · have inside := (List.getElem?_eq_some_iff.1 stands).1
    rw [List.length_append, List.length_singleton] at inside
    obtain rfl : place = list.length := by omega
    rw [List.getElem?_concat_length] at stands
    exact Or.inr ⟨rfl, (Option.some.inj stands).symm⟩

/-- A moment is a call together with the backend that answers it. -/
structure Moment where
  before : Backend
  call : Call

namespace Moment

def after (moment : Moment) : Backend :=
  (moment.before.answer moment.call).2

def stored? (moment : Moment) : Option (String × Json) :=
  moment.before.stored? moment.call

/-- An update that names a version replaces a document that carries it. -/
theorem overwritten {moment : Moment} {key version : String} {document written : Json}
    (updates : moment.call = .update key (some version) document)
    (stores : moment.stored? = some (key, written)) :
    ∃ current, moment.before.items.get? key = some current ∧
      Backend.documentVersion current = version := by
  rw [stored?, updates, Backend.stored?] at stores
  obtain ⟨result, done, _⟩ := Option.map_eq_some_iff.1 stores
  cases answer : (moment.before.update key (some version) document).1 with
  | error cause =>
      rw [answer] at done
      cases done
  | ok result =>
      obtain ⟨current, holds, carries, _⟩ := Backend.update_ok answer
      exact ⟨current, holds, carries⟩

end Moment

namespace Backend

/-- The moments follow one another, from an empty backend to this one. -/
inductive Chain : List Moment → Backend → Prop
  | start : Chain [] .empty
  | step {moments : List Moment} {backend : Backend} (call : Call)
      (chain : Chain moments backend) :
      Chain (moments ++ [⟨backend, call⟩]) (backend.answer call).2

/-- The earlier moments of a chain are a chain of their own. -/
theorem Chain.take {moments : List Moment} {backend : Backend} (chain : Chain moments backend)
    {place : Nat} {moment : Moment} (found : moments[place]? = some moment) :
    Chain (moments.take place) moment.before := by
  induction chain with
  | start => simp at found
  | step call chain inductionHypothesis =>
      rcases getElem?_concat_cases found with earlier | ⟨rfl, rfl⟩
      · have inside := (List.getElem?_eq_some_iff.1 earlier).1
        rw [List.take_append_of_le_length (Nat.le_of_lt inside)]
        exact inductionHypothesis earlier
      · rw [List.take_left]
        exact chain

/-- These are the keys and the documents that were stored, in their order. -/
def ledger (moments : List Moment) : List (String × Json) :=
  moments.filterMap Moment.stored?

theorem ledger_append (first second : List Moment) :
    ledger (first ++ second) = ledger first ++ ledger second :=
  List.filterMap_append

theorem ledger_singleton (moment : Moment) : ledger [moment] = moment.stored?.toList := by
  cases stores : moment.stored? <;> simp [ledger, stores]

/-- The pages of an earlier time stand in the same places later. -/
theorem ledger_take_getElem? {moments : List Moment} {limit place : Nat} {page : String × Json}
    (found : (ledger (moments.take limit))[place]? = some page) :
    (ledger moments)[place]? = some page := by
  have whole : ledger moments = ledger (moments.take limit) ++ ledger (moments.drop limit) := by
    rw [← ledger_append, List.take_append_drop]
  rw [whole, List.getElem?_append_left (List.getElem?_eq_some_iff.1 found).1]
  exact found

/-- A moment that stores something adds its page behind those of all earlier moments. -/
theorem ledger_getElem?_of_stored? {moments : List Moment} {place : Nat} {moment : Moment}
    {page : String × Json} (found : moments[place]? = some moment)
    (stores : moment.stored? = some page) :
    (ledger moments)[(ledger (moments.take place)).length]? = some page := by
  obtain ⟨inside, equal⟩ := List.getElem?_eq_some_iff.1 found
  have rest : moments.drop place = moment :: moments.drop (place + 1) := by
    rw [List.drop_eq_getElem_cons inside, equal]
  have whole : ledger moments =
      ledger (moments.take place) ++ page :: ledger (moments.drop (place + 1)) := by
    calc
      ledger moments = ledger (moments.take place ++ moments.drop place) := by
        rw [List.take_append_drop]
      _ = ledger (moments.take place) ++ ledger (moment :: moments.drop (place + 1)) := by
        rw [ledger_append, rest]
      _ = ledger (moments.take place) ++ page :: ledger (moments.drop (place + 1)) := by
        simp only [ledger, List.filterMap_cons_some stores]
  rw [whole, List.getElem?_append_right (Nat.le_refl _), Nat.sub_self]
  rfl

/-- Every page is stamped with its number, and a key holds its last page. -/
structure Recorded (backend : Backend) (pages : List (String × Json)) : Prop where
  revision : pages.length = backend.revision
  stamped : ∀ {place : Nat} {key : String} {document : Json},
    pages[place]? = some (key, document) → Stamped (place + 1) document
  last : ∀ {key : String} {document : Json}, backend.items.get? key = some document →
    ∃ place : Nat, pages[place]? = some (key, document) ∧
      ∀ {other : Nat} {another : Json}, pages[other]? = some (key, another) → other ≤ place

theorem recorded_empty : Recorded .empty [] where
  revision := rfl
  stamped := by simp
  last := by simp [empty]

/-- A write adds one page. -/
theorem Recorded.put {backend : Backend} {pages : List (String × Json)}
    (recorded : Recorded backend pages) {key : String} {document : Json}
    (stamped : Stamped (backend.revision + 1) document) :
    Recorded (backend.put key document) (pages ++ [(key, document)]) where
  revision := by simp [recorded.revision]
  stamped := by
    intro place foundKey found page
    rcases getElem?_concat_cases page with earlier | ⟨rfl, equal⟩
    · exact recorded.stamped earlier
    · cases equal
      rwa [recorded.revision]
  last := by
    intro sought found holds
    rw [put_get?] at holds
    split at holds
    next same =>
      cases holds
      refine ⟨pages.length, by rw [List.getElem?_concat_length, same], ?_⟩
      intro other another page
      rcases getElem?_concat_cases page with earlier | ⟨rfl, _⟩
      · exact Nat.le_of_lt (List.getElem?_eq_some_iff.1 earlier).1
      · exact Nat.le_refl _
    next different =>
      obtain ⟨place, page, last⟩ := recorded.last holds
      have inside := (List.getElem?_eq_some_iff.1 page).1
      refine ⟨place, by rwa [List.getElem?_append_left inside], ?_⟩
      intro other another otherPage
      rcases getElem?_concat_cases otherPage with earlier | ⟨_, equal⟩
      · exact last earlier
      · exact absurd (congrArg Prod.fst equal) different

/-- A deletion adds no page. -/
theorem Recorded.remove {backend : Backend} {pages : List (String × Json)}
    (recorded : Recorded backend pages) (key : String) : Recorded (backend.remove key) pages where
  revision := recorded.revision
  stamped := recorded.stamped
  last := by
    intro sought found holds
    rw [remove_get?] at holds
    split at holds
    · cases holds
    · exact recorded.last holds

/-- Every call keeps the ledger true. -/
theorem Recorded.step {backend : Backend} {pages : List (String × Json)}
    (recorded : Recorded backend pages) (call : Call) :
    Recorded (backend.answer call).2 (pages ++ (backend.stored? call).toList) := by
  rcases answer_cases backend call with
    ⟨key, document, stores, stamped, after⟩ | ⟨nothing, after⟩ | ⟨key, _, nothing, after⟩
  · rw [stores, after]
    exact recorded.put stamped
  · rw [nothing, after]
    simpa using recorded
  · rw [nothing, after]
    simpa using recorded.remove key

/-- So the ledger is true after every chain of calls. -/
theorem Chain.recorded {moments : List Moment} {backend : Backend}
    (chain : Chain moments backend) : Recorded backend (ledger moments) := by
  induction chain with
  | start => exact recorded_empty
  | step call chain inductionHypothesis =>
      rw [ledger_append, ledger_singleton]
      exact inductionHypothesis.step call

/-- No two pages carry the same version. -/
theorem Recorded.place_eq {backend : Backend} {pages : List (String × Json)}
    (recorded : Recorded backend pages) {first second : Nat} {firstKey secondKey : String}
    {firstDocument secondDocument : Json}
    (firstPage : pages[first]? = some (firstKey, firstDocument))
    (secondPage : pages[second]? = some (secondKey, secondDocument))
    (same : documentVersion firstDocument = documentVersion secondDocument) : first = second := by
  rw [(recorded.stamped firstPage).documentVersion,
    (recorded.stamped secondPage).documentVersion] at same
  exact Nat.succ_inj.1 (Text.writeNat_injective same)

/-- What is held at some moment stands in the ledger of the whole chain. -/
theorem Chain.page_of_get? {moments : List Moment} {backend : Backend}
    (chain : Chain moments backend) {place : Nat} {moment : Moment}
    (found : moments[place]? = some moment) {key : String} {document : Json}
    (holds : moment.before.items.get? key = some document) :
    ∃ page : Nat, (ledger moments)[page]? = some (key, document) := by
  obtain ⟨page, stands, _⟩ := (chain.take found).recorded.last holds
  exact ⟨page, ledger_take_getElem? stands⟩

/-- Equal versions at two moments mean the same document under the same key. -/
theorem Chain.document_eq {moments : List Moment} {backend : Backend}
    (chain : Chain moments backend) {firstPlace secondPlace : Nat} {first second : Moment}
    (firstFound : moments[firstPlace]? = some first)
    (secondFound : moments[secondPlace]? = some second) {firstKey secondKey : String}
    {firstDocument secondDocument : Json}
    (firstHolds : first.before.items.get? firstKey = some firstDocument)
    (secondHolds : second.before.items.get? secondKey = some secondDocument)
    (same : documentVersion firstDocument = documentVersion secondDocument) :
    firstKey = secondKey ∧ firstDocument = secondDocument := by
  obtain ⟨firstPage, firstStands⟩ := chain.page_of_get? firstFound firstHolds
  obtain ⟨secondPage, secondStands⟩ := chain.page_of_get? secondFound secondHolds
  obtain rfl := chain.recorded.place_eq firstStands secondStands same
  rw [firstStands] at secondStands
  cases secondStands
  exact ⟨rfl, rfl⟩

/-- A version that a write under its key has replaced never comes back. -/
theorem Chain.version_ne_of_write {moments : List Moment} {backend : Backend}
    (chain : Chain moments backend) {firstPlace secondPlace : Nat} {first second : Moment}
    (firstFound : moments[firstPlace]? = some first)
    (secondFound : moments[secondPlace]? = some second) (later : firstPlace < secondPlace)
    {key : String} {old written current : Json}
    (firstHolds : first.before.items.get? key = some old)
    (writes : first.stored? = some (key, written))
    (secondHolds : second.before.items.get? key = some current) :
    documentVersion current ≠ documentVersion old := by
  intro same
  have recorded := (chain.take secondFound).recorded
  have stillFound : (moments.take secondPlace)[firstPlace]? = some first := by
    rwa [List.getElem?_take_of_lt later]
  have shorter : (moments.take secondPlace).take firstPlace = moments.take firstPlace := by
    rw [List.take_take, Nat.min_eq_left (Nat.le_of_lt later)]
  -- The old document stands before the page of the write, the current one does not.
  obtain ⟨oldPage, oldStands, _⟩ := (chain.take firstFound).recorded.last firstHolds
  obtain ⟨currentPage, currentStands, last⟩ := recorded.last secondHolds
  have notBefore := last (ledger_getElem?_of_stored? stillFound writes)
  have before := (List.getElem?_eq_some_iff.1 oldStands).1
  rw [shorter] at notBefore
  rw [← shorter] at oldStands
  have samePage := recorded.place_eq currentStands (ledger_take_getElem? oldStands) same
  omega

end Backend

end ResourceApi
