/-
This file lists the reasons for which a store refuses an object of a kind that has no behaviour of
its own. Every object is accepted or refused for one of them.
-/

import ResourceApi.Proofs.Store.Checks

namespace ResourceApi

/-- The start of a name is taken for a name if there is none. -/
def Object.plainName {Spec Status : Type} (object : Object Spec Status) : String :=
  if object.metadata.name = "" then object.metadata.generateName else object.metadata.name

/-- These are the fields that the error finds fault with. -/
def ApiError.fields : ApiError → List FieldPath
  | .invalid _ _ errors => errors.map FieldError.field
  | _ => []

/-- No fault is found with what an object holds, except with its name and its version. -/
def ApiError.SparesContent (error : ApiError) : Prop :=
  ∀ field ∈ error.fields,
    field = FieldPath.metadata "name" ∨ field = FieldPath.metadata "resourceVersion"

namespace Store

variable {Spec Status : Type} {store : Store Spec Status} {backend : Backend} {context : Context}
  {object : Object Spec Status} {space : String}

/-- A new object needs a namespace, no version, a name, and a place that is free. -/
structure AcceptsNew (store : Store Spec Status) (backend : Backend) (context : Context)
    (object : Object Spec Status) (space : String) : Prop where
  settled : store.resolveSpace context object.metadata.space = .ok space
  unversioned : object.metadata.resourceVersion = ""
  name : IsSegment object.plainName
  free : backend.items.get? (store.key space object.plainName) = none

/-- These are the reasons to refuse a new object, in the order in which they count. -/
inductive RefusesNew (store : Store Spec Status) (backend : Backend) (context : Context)
    (object : Object Spec Status) : ApiError → Prop
  | space {error : ApiError}
      (refused : store.resolveSpace context object.metadata.space = .error error) :
      RefusesNew store backend context object error
  | version {space : String}
      (settled : store.resolveSpace context object.metadata.space = .ok space)
      (versioned : object.metadata.resourceVersion ≠ "") :
      RefusesNew store backend context object
        (.badRequest "resourceVersion should not be set on objects to be created")
  | unnamed {space : String}
      (settled : store.resolveSpace context object.metadata.space = .ok space)
      (unversioned : object.metadata.resourceVersion = "") (empty : object.plainName = "") :
      RefusesNew store backend context object
        (store.missingName "name or generateName is required")
  | name {space : String} {error : ApiError}
      (settled : store.resolveSpace context object.metadata.space = .ok space)
      (unversioned : object.metadata.resourceVersion = "") (named : object.plainName ≠ "")
      (refused : store.checkName object.plainName = .error error) :
      RefusesNew store backend context object error
  | present {space : String} {document : Json}
      (settled : store.resolveSpace context object.metadata.space = .ok space)
      (unversioned : object.metadata.resourceVersion = "") (name : IsSegment object.plainName)
      (held : backend.items.get? (store.key space object.plainName) = some document) :
      RefusesNew store backend context object (.alreadyExists store.resource object.plainName)

/-- The kind and the backend both find the named version in what is stored. -/
structure AcceptsOver (store : Store Spec Status) (object : Object Spec Status) (current : Json) :
    Prop where
  versioned : object.metadata.resourceVersion ≠ ""
  seen : ∃ stored, Object.read store.kind current = some stored ∧
    stored.metadata.resourceVersion = object.metadata.resourceVersion
  carried : Backend.documentVersion current = object.metadata.resourceVersion

/-- These are the reasons not to replace a document, in their order. -/
inductive RefusesOver (store : Store Spec Status) (object : Object Spec Status) (current : Json) :
    ApiError → Prop
  | unreadable (unread : Object.read store.kind current = none) :
      RefusesOver store object current .json
  | unversioned {stored : Object Spec Status}
      (readable : Object.read store.kind current = some stored)
      (empty : object.metadata.resourceVersion = "") :
      RefusesOver store object current
        (store.invalid object.metadata.name
          [FieldError.invalid (FieldPath.metadata "resourceVersion") (.text "")
            "must be specified for an update"])
  | outdated {stored : Object Spec Status}
      (readable : Object.read store.kind current = some stored)
      (versioned : object.metadata.resourceVersion ≠ "")
      (other : stored.metadata.resourceVersion ≠ object.metadata.resourceVersion ∨
        Backend.documentVersion current ≠ object.metadata.resourceVersion) :
      RefusesOver store object current (.outdated store.resource object.metadata.name)

/-- The namespace does not count when a document is replaced. -/
theorem AcceptsOver.withSpace {current : Json} (accepts : store.AcceptsOver object current)
    (space : String) : store.AcceptsOver (object.withSpace space) current :=
  ⟨accepts.versioned, accepts.seen, accepts.carried⟩

theorem RefusesOver.withSpace {current : Json} {error : ApiError}
    (refused : store.RefusesOver object current error) (space : String) :
    store.RefusesOver (object.withSpace space) current error := by
  cases refused with
  | unreadable unread => exact .unreadable unread
  | unversioned readable empty => exact .unversioned readable empty
  | outdated readable versioned other => exact .outdated readable versioned other

/-- A changed object needs the address of a stored one. -/
structure AcceptsChange (store : Store Spec Status) (backend : Backend) (context : Context)
    (object : Object Spec Status) (space : String) : Prop where
  settled : store.resolveSpace context object.metadata.space = .ok space
  name : IsSegment object.metadata.name
  replaces : ∃ current, backend.items.get? (store.key space object.metadata.name) = some current ∧
    store.AcceptsOver object current

/-- These are the reasons to refuse a changed object, in the order in which they count. -/
inductive RefusesChange (store : Store Spec Status) (backend : Backend) (context : Context)
    (object : Object Spec Status) : ApiError → Prop
  | space {error : ApiError}
      (refused : store.resolveSpace context object.metadata.space = .error error) :
      RefusesChange store backend context object error
  | unnamed {space : String}
      (settled : store.resolveSpace context object.metadata.space = .ok space)
      (empty : object.metadata.name = "") :
      RefusesChange store backend context object (store.missingName "name is required")
  | name {space : String} {error : ApiError}
      (settled : store.resolveSpace context object.metadata.space = .ok space)
      (named : object.metadata.name ≠ "")
      (refused : store.checkName object.metadata.name = .error error) :
      RefusesChange store backend context object error
  | absent {space : String}
      (settled : store.resolveSpace context object.metadata.space = .ok space)
      (name : IsSegment object.metadata.name)
      (missing : backend.items.get? (store.key space object.metadata.name) = none) :
      RefusesChange store backend context object (.notFound store.resource object.metadata.name)
  | document {space : String} {current : Json} {error : ApiError}
      (settled : store.resolveSpace context object.metadata.space = .ok space)
      (name : IsSegment object.metadata.name)
      (held : backend.items.get? (store.key space object.metadata.name) = some current)
      (refused : store.RefusesOver object current error) :
      RefusesChange store backend context object error

theorem fields_of_checkSpace {error : ApiError} (refused : checkSpace space = .error error) :
    error.fields = [] := by
  unfold checkSpace at refused
  split at refused <;> cases refused
  rfl

theorem fields_of_resolveSpace {error : ApiError}
    (refused : store.resolveSpace context space = .error error) : error.fields = [] := by
  have mapped (asked given : String) (failed : (checkSpace asked).map (fun _ => given) =
      .error error) : error.fields = [] := by
    cases checked : checkSpace asked with
    | error cause =>
        rw [checked] at failed
        cases failed
        exact fields_of_checkSpace checked
    | ok passed =>
        rw [checked] at failed
        cases failed
  unfold resolveSpace at refused
  split at refused
  · split at refused
    · split at refused
      · exact mapped _ _ refused
      · split at refused
        · exact mapped _ _ refused
        · cases refused
          rfl
    · split at refused
      · cases refused
        rfl
      · exact mapped _ _ refused
  · split at refused <;> cases refused
    rfl

theorem fields_of_checkName {name : String} {error : ApiError}
    (refused : store.checkName name = .error error) :
    error.fields = [FieldPath.metadata "name"] := by
  unfold checkName at refused
  split at refused <;> cases refused
  rfl

theorem RefusesNew.sparesContent {error : ApiError}
    (refused : store.RefusesNew backend context object error) : error.SparesContent := by
  cases refused with
  | space refused => simp [ApiError.SparesContent, fields_of_resolveSpace refused]
  | version | unnamed | present =>
      simp [ApiError.SparesContent, ApiError.fields, missingName, invalid, FieldError.required]
  | name _ _ _ refused => simp [ApiError.SparesContent, fields_of_checkName refused]

theorem RefusesChange.sparesContent {error : ApiError}
    (refused : store.RefusesChange backend context object error) : error.SparesContent := by
  cases refused with
  | space refused => simp [ApiError.SparesContent, fields_of_resolveSpace refused]
  | unnamed | absent =>
      simp [ApiError.SparesContent, ApiError.fields, missingName, invalid, FieldError.required]
  | name _ _ refused => simp [ApiError.SparesContent, fields_of_checkName refused]
  | document _ _ _ refused =>
      cases refused with
      | unreadable | unversioned | outdated =>
          simp [ApiError.SparesContent, ApiError.fields, ApiError.outdated, invalid,
            FieldError.invalid]

theorem isSegment_of_checkName {name : String} {passed : Unit} (named : name ≠ "")
    (checked : store.checkName name = .ok passed) : IsSegment name :=
  (isSegment_iff name).2 ⟨named, checkName_eq_ok_iff.1 ⟨passed, checked⟩⟩

/-- Every new object is accepted or refused. -/
theorem acceptsNew_or_refusesNew (store : Store Spec Status) (backend : Backend)
    (context : Context) (object : Object Spec Status) :
    (∃ space, store.AcceptsNew backend context object space) ∨
      ∃ error, store.RefusesNew backend context object error := by
  cases settled : store.resolveSpace context object.metadata.space with
  | error error => exact Or.inr ⟨error, .space settled⟩
  | ok space =>
      by_cases unversioned : object.metadata.resourceVersion = ""
      · by_cases empty : object.plainName = ""
        · exact Or.inr ⟨_, .unnamed settled unversioned empty⟩
        · cases checked : store.checkName object.plainName with
          | error error => exact Or.inr ⟨error, .name settled unversioned empty checked⟩
          | ok passed =>
              have name := isSegment_of_checkName empty checked
              cases found : backend.items.get? (store.key space object.plainName) with
              | none => exact Or.inl ⟨space, settled, unversioned, name, found⟩
              | some document => exact Or.inr ⟨_, .present settled unversioned name found⟩
      · exact Or.inr ⟨_, .version settled unversioned⟩

/-- Every stored document is replaced by an object or not. -/
theorem acceptsOver_or_refusesOver (store : Store Spec Status) (object : Object Spec Status)
    (current : Json) :
    store.AcceptsOver object current ∨ ∃ error, store.RefusesOver object current error := by
  cases readable : Object.read store.kind current with
  | none => exact Or.inr ⟨_, .unreadable readable⟩
  | some stored =>
      by_cases unversioned : object.metadata.resourceVersion = ""
      · exact Or.inr ⟨_, .unversioned readable unversioned⟩
      · by_cases seen : stored.metadata.resourceVersion = object.metadata.resourceVersion
        · by_cases carried : Backend.documentVersion current = object.metadata.resourceVersion
          · exact Or.inl ⟨unversioned, ⟨stored, readable, seen⟩, carried⟩
          · exact Or.inr ⟨_, .outdated readable unversioned (Or.inr carried)⟩
        · exact Or.inr ⟨_, .outdated readable unversioned (Or.inl seen)⟩

/-- Every changed object is accepted or refused. -/
theorem acceptsChange_or_refusesChange (store : Store Spec Status) (backend : Backend)
    (context : Context) (object : Object Spec Status) :
    (∃ space, store.AcceptsChange backend context object space) ∨
      ∃ error, store.RefusesChange backend context object error := by
  cases settled : store.resolveSpace context object.metadata.space with
  | error error => exact Or.inr ⟨error, .space settled⟩
  | ok space =>
      by_cases empty : object.metadata.name = ""
      · exact Or.inr ⟨_, .unnamed settled empty⟩
      · cases checked : store.checkName object.metadata.name with
        | error error => exact Or.inr ⟨error, .name settled empty checked⟩
        | ok passed =>
            have name := isSegment_of_checkName empty checked
            cases found : backend.items.get? (store.key space object.metadata.name) with
            | none => exact Or.inr ⟨_, .absent settled name found⟩
            | some current =>
                rcases store.acceptsOver_or_refusesOver object current with
                  replaces | ⟨error, refused⟩
                · exact Or.inl ⟨space, settled, name, current, found, replaces⟩
                · exact Or.inr ⟨error, .document settled name found refused⟩

/-- One condition for success and one for failure settle a request between them. -/
theorem settled_by {Answer : Type} {run : Except ApiError Answer × Backend}
    {accepts : String → Prop} {refuses : ApiError → Prop} {answer : String → Answer}
    {changed : String → Backend} (total : (∃ space, accepts space) ∨ ∃ error, refuses error)
    (done : ∀ space, accepts space → run = (.ok (answer space), changed space))
    (failed : ∀ error, refuses error → run = (.error error, backend)) :
    (∀ result after, run = (.ok result, after) ↔
      ∃ space, accepts space ∧ result = answer space ∧ after = changed space) ∧
    (∀ error after, run = (.error error, after) ↔ refuses error ∧ after = backend) := by
  constructor
  · intro result after
    constructor
    · intro ended
      rcases total with ⟨space, accepted⟩ | ⟨error, refused⟩
      · have agreed := (done space accepted).symm.trans ended
        cases agreed
        exact ⟨space, accepted, rfl, rfl⟩
      · have agreed := (failed error refused).symm.trans ended
        cases agreed
    · rintro ⟨space, accepted, rfl, rfl⟩
      exact done space accepted
  · intro error after
    constructor
    · intro ended
      rcases total with ⟨space, accepted⟩ | ⟨cause, refused⟩
      · have agreed := (done space accepted).symm.trans ended
        cases agreed
      · have agreed := (failed cause refused).symm.trans ended
        cases agreed
        exact ⟨refused, rfl⟩
    · rintro ⟨refused, rfl⟩
      exact failed error refused

end Store

end ResourceApi
