/-
This file says exactly which objects pass the checks of a store, and what has become of them then.
-/

import ResourceApi.Proofs.Store.Key

namespace ResourceApi.Store

variable {Spec Status : Type} {store : Store Spec Status}

theorem read_eq_ok_iff {document : Json} {object : Object Spec Status} :
    store.read document = .ok object ↔ Object.read store.kind document = some object := by
  unfold read
  split
  next found => simp [found]
  next absent => simp [absent]

/-- An update looks for an object under a name that is a part of a key. -/
theorem target_eq_ok_iff {context : Context} {object target : Object Spec Status} :
    store.target context object = .ok target ↔
      IsSegment object.metadata.name ∧
      ∃ space, store.resolveSpace context object.metadata.space = .ok space ∧
        target = object.withSpace space := by
  unfold Store.target
  cases store.resolveSpace context object.metadata.space with
  | error error => simp
  | ok space =>
      by_cases empty : object.metadata.name = ""
      · simp [empty, isSegment_iff]
      · simp only [empty, if_false, isSegment_iff, ← @checkName_eq_ok_iff _ _ store]
        cases store.checkName object.metadata.name with
        | error error => simp [Except.map]
        | ok passed => simp [Except.map, empty, eq_comm]

/-- The new object is prepared and named, and its name is still to be checked. -/
def prepared (store : Store Spec Status) (context : Context) (object : Object Spec Status)
    (space : String) : Object Spec Status :=
  store.nameNew (store.strategy.prepareForCreate context (object.withSpace space))

/-- This is what the hooks make of a new object in the end. -/
def finalNew (store : Store Spec Status) (context : Context) (object : Object Spec Status)
    (space : String) : Object Spec Status :=
  store.strategy.canonicalize ((store.prepared context object space).withKind store.kind)

/-- The last hook runs after all checks. -/
theorem accept_eq_ok_iff {context : Context} {object admitted : Object Spec Status} :
    store.accept context object = .ok admitted ↔
      ∃ space, store.resolveSpace context object.metadata.space = .ok space ∧
        object.metadata.resourceVersion = "" ∧
        IsSegment (store.prepared context object space).metadata.name ∧
        store.strategy.validate context
          ((store.prepared context object space).withKind store.kind) = [] ∧
        admitted = store.finalNew context object space := by
  unfold accept finalNew
  cases store.resolveSpace context object.metadata.space with
  | error error => simp
  | ok space =>
      have named : store.nameNew (store.strategy.prepareForCreate context
          (object.withSpace space)) = store.prepared context object space := rfl
      simp only [named, Except.ok.injEq, exists_eq_left']
      generalize store.prepared context object space = named
      by_cases versioned : object.metadata.resourceVersion = ""
      · by_cases empty : named.metadata.name = ""
        · simp [versioned, empty, isSegment_iff]
        · have checked := @checkName_eq_ok_iff _ _ store named.metadata.name
          simp only [versioned, empty, ne_eq, not_true_eq_false, if_false, isSegment_iff,
            not_false_eq_true, true_and, ← checked]
          cases store.checkName named.metadata.name with
          | error error => simp
          | ok passed =>
              simp only [List.isEmpty_iff]
              grind
      · simp [versioned]

/-- An update replaces the stored version, which the object may name. -/
theorem replacedVersion_eq_ok_iff {strategy : UpdateStrategy Spec Status}
    {object stored : Object Spec Status} {version : String} :
    store.replacedVersion strategy object stored = .ok version ↔
      version = stored.metadata.resourceVersion ∧
      (object.metadata.resourceVersion = version ∧ version ≠ "" ∨
        object.metadata.resourceVersion = "" ∧ strategy.allowUnconditionalUpdate = true) := by
  unfold replacedVersion
  by_cases unnamed : object.metadata.resourceVersion = ""
  · cases allowed : strategy.allowUnconditionalUpdate with
    | false =>
        simp only [unnamed, if_true, Bool.false_eq_true, if_false]
        grind
    | true =>
        simp only [unnamed, if_true]
        grind
  · by_cases same : object.metadata.resourceVersion = stored.metadata.resourceVersion
    · simp only [same, if_true]
      grind
    · simp only [unnamed, same, if_false]
      grind

/-- The object with the version that it replaces, prepared with the stored one in sight. -/
def proposed (store : Store Spec Status) (strategy : UpdateStrategy Spec Status)
    (context : Context) (object stored : Object Spec Status) (version : String) :
    Object Spec Status :=
  strategy.prepare context ((object.withVersion version).withKind store.kind) stored

/-- This is what the hooks make of a changed object in the end. -/
def finalChange (store : Store Spec Status) (strategy : UpdateStrategy Spec Status)
    (context : Context) (object stored : Object Spec Status) (version : String) :
    Object Spec Status :=
  strategy.canonicalize (store.proposed strategy context object stored version)

theorem replacement_eq_ok_iff {strategy : UpdateStrategy Spec Status} {context : Context}
    {object stored replacing : Object Spec Status} {version : String} :
    store.replacement strategy context object stored = .ok (version, replacing) ↔
      store.replacedVersion strategy object stored = .ok version ∧
      strategy.validate context (store.proposed strategy context object stored version) stored =
        [] ∧
      replacing = store.finalChange strategy context object stored version := by
  unfold replacement finalChange
  cases store.replacedVersion strategy object stored with
  | error error => simp
  | ok found =>
      have proposal : strategy.prepare context ((object.withVersion found).withKind store.kind)
          stored = store.proposed strategy context object stored found := rfl
      simp only [proposal]
      simp only [List.isEmpty_iff]
      by_cases valid : strategy.validate context
          (store.proposed strategy context object stored found) stored = []
      · simp only [valid, if_true]
        grind
      · simp only [valid, if_false]
        grind

end ResourceApi.Store
