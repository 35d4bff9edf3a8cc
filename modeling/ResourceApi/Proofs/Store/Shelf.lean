/-
This file shows what lookups and listings say about an orderly backend: each is a view of one list
of objects.
-/

import ResourceApi.Proofs.Backend.Scan
import ResourceApi.Proofs.Store.Reachable

namespace ResourceApi

universe u v

/-- If every element is built of something, then the list is built of a list. -/
theorem exists_map_eq {Part : Type u} {Element : Type v} {list : List Element}
    {build : Part → Element} {good : Part → Prop}
    (built : ∀ element ∈ list, ∃ part, good part ∧ build part = element) :
    ∃ parts : List Part, parts.map build = list ∧ ∀ part ∈ parts, good part := by
  induction list with
  | nil => exact ⟨[], rfl, nofun⟩
  | cons head rest inductionHypothesis =>
      obtain ⟨parts, same, goodParts⟩ := inductionHypothesis fun element inside =>
        built element (List.mem_cons_of_mem _ inside)
      obtain ⟨part, goodPart, equal⟩ := built head List.mem_cons_self
      exact ⟨part :: parts, by rw [List.map_cons, equal, same],
        List.forall_mem_cons.2 ⟨goodPart, goodParts⟩⟩

variable {Spec Status : Type}

/-- The written object shows its labels and its fields. -/
theorem Attributes.ofDocument_write (kind : Kind Spec Status) (object : Object Spec Status)
    (namespaced : Bool) :
    Attributes.ofDocument (object.write kind) namespaced =
      .ok ⟨object.metadata.labels, object.metadata.selectableFields namespaced⟩ := by
  have found : (object.write kind).field? "metadata" =
      some (.object object.metadata.fields) := by
    simp [Object.write_eq, Json.field?, Object.fields, ObjectMeta.write_eq]
  have readable : ObjectMeta.read (.object object.metadata.fields) = some object.metadata :=
    ObjectMeta.read_write object.metadata
  simp only [Attributes.ofDocument, found, readable]

namespace Store

variable {store : Store Spec Status} {backend : Backend} {objects : List (Object Spec Status)}

/-- The predicate holds for the labels and the fields of the object. -/
def selects (store : Store Spec Status) (predicate : Predicate) (object : Object Spec Status) :
    Bool :=
  predicate.holds object.metadata.labels (object.metadata.selectableFields store.namespaced)

/-- A written object is added to what is selected of the rest, or passed over. -/
theorem select_cons (faithful : store.kind.Faithful) (predicate : Predicate) {room : Option Nat}
    (space : room ≠ some 0) (object : Object Spec Status) (rest : List Json) :
    store.select predicate room (object.write store.kind :: rest) =
      if store.selects predicate object then
        (store.select predicate (room.map (· - 1)) rest).map (object :: ·)
      else store.select predicate room rest := by
  rw [select]
  · simp only [Attributes.ofDocument_write, selects,
      read_eq_ok_iff.2 (Object.read_write_of_faithful faithful object)]
    rfl
  · exact space

/-- Written objects are selected where the predicate holds and there is room. -/
theorem select_write (faithful : store.kind.Faithful) (predicate : Predicate)
    (room : Option Nat) (objects : List (Object Spec Status)) :
    store.select predicate room (objects.map (Object.write store.kind)) =
      .ok (room.elim (objects.filter (store.selects predicate)) fun limit =>
        (objects.filter (store.selects predicate)).take limit) := by
  induction objects generalizing room with
  | nil => cases room <;> simp [select]
  | cons object rest inductionHypothesis =>
      rw [List.map_cons]
      cases room with
      | none =>
          rw [select_cons faithful predicate (by simp)]
          cases chosen : store.selects predicate object with
          | false =>
              simp [chosen, inductionHypothesis]
          | true =>
              simp [chosen, inductionHypothesis, Except.map]
      | some limit =>
          cases limit with
          | zero => simp [select]
          | succ limit =>
              rw [select_cons faithful predicate (by simp)]
              cases chosen : store.selects predicate object with
              | false => simp [chosen, inductionHypothesis]
              | true => simp [chosen, inductionHypothesis, Except.map]

/-- This is what a listing answers that lists these objects. -/
def answerList (store : Store Spec Status) (backend : Backend)
    (items : List (Object Spec Status)) : ObjectList Spec Status :=
  { ObjectList.empty store.kind with
    metadata := ⟨Text.writeNat backend.revision⟩
    items := items }

/-- A listing of written objects is a cut of those that the selectors hold for. -/
theorem list_run_of_written (faithful : store.kind.Faithful) {scope : ListScope}
    {filter : ListFilter} {predicate : Predicate} {root : String}
    (parsed : Predicate.ofFilter filter = .ok predicate)
    (rooted : store.listRoot scope = .ok root)
    (written : (backend.list root).items = objects.map (Object.write store.kind)) :
    ((store.list scope filter).run backend).1 =
      .ok (store.answerList backend (filter.cut (objects.filter (store.selects predicate)))) := by
  have cut (items : List (Object Spec Status)) :
      (room filter).elim items (fun limit => items.take limit) = filter.cut items := by
    unfold room ListFilter.cut
    cases filter.limit with
    | none => rfl
    | some limit =>
        by_cases unlimited : limit = 0
        · simp [unlimited, Option.filter]
        · simp [unlimited, Option.filter]
  unfold list
  simp only [parsed, rooted, Request.run_call, Request.run_done, Backend.answer, listed, written,
    select_write faithful, cut]
  rfl

/-- The objects stand in the order of their keys, and each fits its key. -/
structure Shelf (store : Store Spec Status) (backend : Backend)
    (objects : List (Object Spec Status)) : Prop where
  entries : backend.items.entries =
    objects.map fun object => (store.objectKey object, object.write store.kind)
  fits : ∀ object ∈ objects, store.Fits (store.objectKey object) object

/-- An orderly backend is one shelf of objects. -/
theorem Orderly.shelf (orderly : store.Orderly backend) :
    ∃ objects, store.Shelf backend objects := by
  have built : ∀ entry ∈ backend.items.entries, ∃ object : Object Spec Status,
      store.Fits (store.objectKey object) object ∧
        (store.objectKey object, object.write store.kind) = entry := by
    intro entry inside
    obtain ⟨object, fits, document⟩ :=
      orderly entry.1 entry.2 (Dict.get?_eq_some_iff.2 inside)
    exact ⟨object, fits.key ▸ fits, by rw [← fits.key, ← document]⟩
  obtain ⟨objects, entries, fits⟩ := exists_map_eq built
  exact ⟨objects, entries.symm, fits⟩

variable {context : Context} {address : Address} {object : Object Spec Status}

/-- What a backend holds is on the shelf. -/
theorem Shelf.get?_eq_some_iff (shelf : store.Shelf backend objects) {key : String}
    {document : Json} :
    backend.items.get? key = some document ↔
      ∃ object ∈ objects, store.objectKey object = key ∧ object.write store.kind = document := by
  rw [Dict.get?_eq_some_iff, shelf.entries, List.mem_map]
  simp only [Prod.mk.injEq]

/-- A lookup finds the object on the shelf with this name and namespace. -/
theorem Shelf.get_eq_ok_iff (shelf : store.Shelf backend objects)
    (faithful : store.kind.Faithful) :
    ((store.get context address).run backend).1 = .ok object ↔
      object ∈ objects ∧ object.metadata.name = address.name ∧
        store.resolveSpace context address.space = .ok object.metadata.space := by
  rw [get_run]
  constructor
  · intro answered
    cases addressed : store.addressKey context address with
    | error error =>
        rw [addressed] at answered
        cases answered
    | ok key =>
        simp only [addressed] at answered
        cases found : backend.items.get? key with
        | none =>
            rw [Backend.get, found] at answered
            cases answered
        | some document =>
            rw [Backend.get, found] at answered
            obtain ⟨_, space, settled, rfl⟩ := addressKey_eq_ok_iff.1 addressed
            obtain ⟨held, inside, sameKey, rfl⟩ := shelf.get?_eq_some_iff.1 found
            have readable := Object.read_write_of_faithful faithful held
            obtain rfl : held = object :=
              Option.some.inj (readable.symm.trans (read_eq_ok_iff.1 answered))
            obtain ⟨sameSpace, sameName⟩ := key_inj (shelf.fits held inside).space
              (scopes_of_resolveSpace settled) sameKey
            exact ⟨inside, sameName, by rw [settled, sameSpace]⟩
  · rintro ⟨inside, sameName, settled⟩
    have fits := shelf.fits object inside
    have addressed : store.addressKey context address = .ok (store.objectKey object) :=
      addressKey_eq_ok_iff.2 ⟨sameName ▸ fits.name, object.metadata.space, settled, by
        rw [← sameName]
        rfl⟩
    have found := shelf.get?_eq_some_iff.2 ⟨object, inside, rfl, rfl⟩
    simp only [addressed, Backend.get, found, readReply]
    exact read_eq_ok_iff.2 (Object.read_write_of_faithful faithful object)

/-- No two objects on the shelf share their address. -/
theorem Shelf.addresses_nodup (shelf : store.Shelf backend objects) :
    (objects.map Object.address).Nodup := by
  have increasing := backend.items.increasing
  unfold Entries.Increasing at increasing
  rw [shelf.entries, List.pairwise_map] at increasing
  rw [List.Nodup, List.pairwise_map]
  refine increasing.imp ?_
  intro first second less same
  have sameKey : store.objectKey first = store.objectKey second := objectKey_congr same
  rw [sameKey] at less
  exact String.lt_irrefl _ less

/-- A listing is a cut of the selected objects below its root. -/
theorem Shelf.list_eq (shelf : store.Shelf backend objects) (faithful : store.kind.Faithful)
    {scope : ListScope} {filter : ListFilter} {predicate : Predicate} {root : String}
    (parsed : Predicate.ofFilter filter = .ok predicate)
    (rooted : store.listRoot scope = .ok root) :
    ((store.list scope filter).run backend).1 = .ok (store.answerList backend (filter.cut
      ((objects.filter fun object => Text.startsWith (store.objectKey object) root).filter
        (store.selects predicate)))) := by
  have documents : (backend.list root).items =
      (objects.filter fun object => Text.startsWith (store.objectKey object) root).map
        (Object.write store.kind) := by
    rw [Backend.list_items, shelf.entries, List.filter_map, List.map_map]
    rfl
  exact list_run_of_written faithful parsed rooted documents

end Store

end ResourceApi
