/-
This file shows that the merge of two storage maps is their union, and that there is one exactly
where no version serves a resource in both.
-/

import ResourceApi.Proofs.Dict
import ResourceApi.Server.StorageMap

namespace ResourceApi.StorageMap

variable {Entry : Type}

/-- No version serves a resource in both maps. -/
def Disjoint (first second : StorageMap Entry) : Prop :=
  ∀ version resource, first.find? version resource = none ∨ second.find? version resource = none

/-- This is the lookup of a map in a list of its entries. -/
def findIn (versions : List (String × Dict Entry)) (version resource : String) : Option Entry :=
  (Entries.find? version versions).bind fun resources => resources.get? resource

@[simp] theorem findIn_nil (version resource : String) :
    findIn ([] : List (String × Dict Entry)) version resource = none := rfl

section Entries

variable {head : String × Dict Entry} {rest : List (String × Dict Entry)}

theorem findIn_head (resource : String) :
    findIn (head :: rest) head.1 resource = head.2.get? resource := by
  rw [findIn, Entries.find?_cons, if_pos rfl, Option.bind_some]

theorem findIn_of_ne {version : String} (different : ¬ version = head.1) (resource : String) :
    findIn (head :: rest) version resource = findIn rest version resource := by
  rw [findIn, findIn, Entries.find?_cons, if_neg (Ne.symm different)]

variable (increasing : Entries.Increasing (head :: rest))

include increasing

theorem findIn_behind (resource : String) : findIn rest head.1 resource = none := by
  rw [findIn, Entries.find?_eq_none_of_above increasing, Option.bind_none]

theorem findIn_below {version : String} (below : version < head.1) (resource : String) :
    findIn (head :: rest) version resource = none := by
  rw [findIn, Entries.find?_eq_none_of_below increasing below, Option.bind_none]

end Entries

/-- A version that is not in the map serves nothing yet. -/
theorem get?_served (map : StorageMap Entry) (version resource : String) :
    ((map.get? version).getD .empty).get? resource = map.find? version resource := by
  rw [find?]
  cases map.get? version with
  | none => rfl
  | some resources => rfl

@[simp] theorem find?_insert (map : StorageMap Entry) (place version resource : String)
    (resources : Dict Entry) :
    find? (map.insert place resources) version resource =
      if version = place then resources.get? resource else map.find? version resource := by
  rw [find?, Dict.get?_insert]
  split
  · rfl
  · rfl

/-- Resources join those of a version all together. -/
theorem addResources_ok_iff {version : String} {entries : List (String × Entry)}
    (increasing : Entries.Increasing entries) {served result : Dict Entry} :
    addResources version entries served = .ok result ↔
      (∀ resource, served.get? resource = none ∨ Entries.find? resource entries = none) ∧
        result = served.insertAll entries := by
  induction entries generalizing served with
  | nil => simp [addResources, Dict.insertAll, eq_comm]
  | cons head rest inductionHypothesis =>
      obtain ⟨resource, entry⟩ := head
      have tail := (List.pairwise_cons.1 increasing).2
      have last := Entries.find?_eq_none_of_above increasing
      rw [addResources]
      split
      next taken =>
        obtain ⟨present, found⟩ := Dict.contains_eq_true_iff.1 taken
        constructor
        · intro impossible
          cases impossible
        · rintro ⟨free, _⟩
          have atResource := free resource
          simp [found] at atResource
      next free =>
        have absent := Dict.contains_eq_false_iff.1 (Bool.not_eq_true _ ▸ free)
        rw [inductionHypothesis tail]
        refine and_congr ?_ Iff.rfl
        refine forall_congr' fun sought => ?_
        by_cases here : sought = resource
        · subst here
          simp [absent, last]
        · simp [here, Ne.symm here]

/-- Versions that have joined a map serve what they served before. -/
theorem find?_of_addVersions {versions : List (String × Dict Entry)}
    (increasing : Entries.Increasing versions) {map result : StorageMap Entry}
    (added : addVersions versions map = .ok result) (version resource : String) :
    (map.find? version resource = none ∨ findIn versions version resource = none) ∧
      result.find? version resource =
        (map.find? version resource).or (findIn versions version resource) := by
  induction versions generalizing map with
  | nil =>
      cases added
      simp
  | cons head rest inductionHypothesis =>
      rw [addVersions] at added
      split at added
      · cases added
      next served joined =>
        obtain ⟨free, rfl⟩ := (addResources_ok_iff head.2.increasing).1 joined
        have tail := inductionHypothesis (List.pairwise_cons.1 increasing).2 added
        rw [find?_insert] at tail
        by_cases same : version = head.1
        · subst same
          have here := free resource
          rw [if_pos rfl, findIn_behind increasing, Dict.get?_insertAll head.2.increasing,
            get?_served] at tail
          rw [get?_served] at here
          rw [findIn_head, tail.2]
          rcases here with absent | absent
          · simp [absent, Dict.get?]
          · simp [absent, Dict.get?]
        · rw [if_neg same] at tail
          rw [findIn_of_ne same]
          exact tail

/-- Versions join a map that serves none of their resources. -/
theorem addVersions_of_free {versions : List (String × Dict Entry)}
    (increasing : Entries.Increasing versions) {map : StorageMap Entry}
    (free : ∀ version resource,
      map.find? version resource = none ∨ findIn versions version resource = none) :
    ∃ result, addVersions versions map = .ok result := by
  induction versions generalizing map with
  | nil => exact ⟨map, rfl⟩
  | cons head rest inductionHypothesis =>
      have joined : addResources head.1 head.2.entries ((map.get? head.1).getD .empty) =
          .ok (((map.get? head.1).getD .empty).insertAll head.2.entries) := by
        refine (addResources_ok_iff head.2.increasing).2 ⟨fun resource => ?_, rfl⟩
        have here := free head.1 resource
        rw [findIn_head] at here
        rw [get?_served]
        exact here
      rw [addVersions, joined]
      refine inductionHypothesis (List.pairwise_cons.1 increasing).2 fun version resource => ?_
      rw [find?_insert]
      by_cases same : version = head.1
      · rw [same]
        exact Or.inr (findIn_behind increasing resource)
      · have elsewhere := free version resource
        rw [findIn_of_ne same] at elsewhere
        rw [if_neg same]
        exact elsewhere

/-- A merge serves what one of the maps serves, and nothing is served in both. -/
theorem find?_of_merge {first second result : StorageMap Entry}
    (merged : first.merge second = .ok result) :
    first.Disjoint second ∧ ∀ version resource,
      result.find? version resource =
        (first.find? version resource).or (second.find? version resource) :=
  ⟨fun version resource => (find?_of_addVersions second.increasing merged version resource).1,
    fun version resource => (find?_of_addVersions second.increasing merged version resource).2⟩

theorem merge_of_disjoint {first second : StorageMap Entry} (disjoint : first.Disjoint second) :
    ∃ result, first.merge second = .ok result :=
  addVersions_of_free second.increasing disjoint

end ResourceApi.StorageMap
