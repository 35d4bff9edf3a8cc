/-
This file shows that storage maps form a partial commutative monoid. Two of them merge into their
union where no version serves a resource in both, and otherwise the first such resource is reported.
-/

import ResourceApi.Proofs.Server.StorageMap

namespace ResourceApi.StorageMap

variable {Entry : Type}

/-- Resources are reported in the order of their versions, and then of their names. -/
def Before (version resource otherVersion otherResource : String) : Prop :=
  version < otherVersion ∨ version = otherVersion ∧ resource < otherResource

theorem eq_of_not_before {version resource otherVersion otherResource : String}
    (notBefore : ¬ Before version resource otherVersion otherResource)
    (notAfter : ¬ Before otherVersion otherResource version resource) :
    version = otherVersion ∧ resource = otherResource := by
  unfold Before at notBefore notAfter
  have versions : version = otherVersion := by
    rcases Std.lt_trichotomy version otherVersion with less | same | greater
    · exact absurd (Or.inl less) notBefore
    · exact same
    · exact absurd (Or.inl greater) notAfter
  rcases Std.lt_trichotomy resource otherResource with less | same | greater
  · exact absurd (Or.inr ⟨versions, less⟩) notBefore
  · exact ⟨versions, same⟩
  · exact absurd (Or.inr ⟨versions.symm, greater⟩) notAfter

/-- The version serves the resource in both maps. -/
def Shared (first second : StorageMap Entry) (version resource : String) : Prop :=
  (first.find? version resource).isSome = true ∧ (second.find? version resource).isSome = true

/-- No resource that both maps serve comes before this one. -/
structure FirstShared (first second : StorageMap Entry) (version resource : String) : Prop where
  shared : first.Shared second version resource
  least : ∀ otherVersion otherResource, first.Shared second otherVersion otherResource →
    ¬ Before otherVersion otherResource version resource

section Shared

variable {first second : StorageMap Entry} {version resource : String}

theorem Shared.symm (shared : first.Shared second version resource) :
    second.Shared first version resource :=
  ⟨shared.2, shared.1⟩

theorem disjoint_iff : first.Disjoint second ↔
    ∀ version resource, ¬ first.Shared second version resource := by
  unfold Disjoint Shared
  apply forall_congr'
  intro version
  apply forall_congr'
  intro resource
  cases first.find? version resource <;> cases second.find? version resource <;> simp

theorem FirstShared.symm (found : first.FirstShared second version resource) :
    second.FirstShared first version resource :=
  ⟨found.shared.symm, fun otherVersion otherResource shared =>
    found.least otherVersion otherResource shared.symm⟩

theorem FirstShared.unique {otherVersion otherResource : String}
    (found : first.FirstShared second version resource)
    (other : first.FirstShared second otherVersion otherResource) :
    version = otherVersion ∧ resource = otherResource :=
  eq_of_not_before (other.least _ _ found.shared) (found.least _ _ other.shared)

end Shared

/-- The first resource that is served already is reported. -/
theorem addResources_error {version : String} {entries : List (String × Entry)}
    (increasing : Entries.Increasing entries) {served : Dict Entry} {error : BuildError}
    (failed : addResources version entries served = .error error) :
    ∃ resource, error = .storageCollision version resource ∧
      (served.get? resource).isSome = true ∧ (Entries.find? resource entries).isSome = true ∧
      ∀ other, other < resource →
        served.get? other = none ∨ Entries.find? other entries = none := by
  induction entries generalizing served with
  | nil => cases failed
  | cons head rest inductionHypothesis =>
      obtain ⟨name, entry⟩ := head
      rw [addResources] at failed
      split at failed
      next taken =>
        cases failed
        have offered : (Entries.find? name ((name, entry) :: rest)).isSome = true := by simp
        exact ⟨name, rfl, taken, offered, fun other below =>
          Or.inr (Entries.find?_eq_none_of_below increasing below)⟩
      next free =>
        have absent := Dict.contains_eq_false_iff.1 (Bool.not_eq_true _ ▸ free)
        obtain ⟨resource, reported, present, offered, least⟩ :=
          inductionHypothesis (List.pairwise_cons.1 increasing).2 failed
        have elsewhere : ¬ name = resource := by
          intro same
          rw [← same, Entries.find?_eq_none_of_above increasing] at offered
          cases offered
        rw [Dict.get?_insert, if_neg (Ne.symm elsewhere)] at present
        have listed : (Entries.find? resource ((name, entry) :: rest)).isSome = true := by
          rw [Entries.find?_cons, if_neg elsewhere]
          exact offered
        refine ⟨resource, reported, present, listed, fun other below => ?_⟩
        by_cases here : name = other
        · exact Or.inl (here ▸ absent)
        · have later := least other below
          rw [Dict.get?_insert, if_neg (Ne.symm here)] at later
          rw [Entries.find?_cons, if_neg here]
          exact later

/-- What is added for one version does not count for those behind it. -/
theorem addVersions_error {versions : List (String × Dict Entry)}
    (increasing : Entries.Increasing versions) {map : StorageMap Entry} {error : BuildError}
    (failed : addVersions versions map = .error error) :
    ∃ version resource, error = .storageCollision version resource ∧
      (map.find? version resource).isSome = true ∧
      (findIn versions version resource).isSome = true ∧
      ∀ otherVersion otherResource, Before otherVersion otherResource version resource →
        map.find? otherVersion otherResource = none ∨
          findIn versions otherVersion otherResource = none := by
  induction versions generalizing map with
  | nil => cases failed
  | cons head rest inductionHypothesis =>
      rw [addVersions] at failed
      split at failed
      next collision =>
        cases failed
        obtain ⟨resource, reported, present, offered, least⟩ :=
          addResources_error head.2.increasing collision
        rw [get?_served] at present
        refine ⟨head.1, resource, reported, present, (findIn_head resource).symm ▸ offered, ?_⟩
        intro otherVersion otherResource before
        rcases before with below | ⟨rfl, below⟩
        · exact Or.inr (findIn_below increasing below otherResource)
        · have free := least otherResource below
          rw [get?_served] at free
          rw [findIn_head]
          exact free
      next served joined =>
        obtain ⟨room, _⟩ := (addResources_ok_iff head.2.increasing).1 joined
        obtain ⟨version, resource, reported, present, offered, least⟩ :=
          inductionHypothesis (List.pairwise_cons.1 increasing).2 failed
        have behind : ¬ version = head.1 := by
          intro same
          rw [same, findIn_behind increasing] at offered
          cases offered
        rw [find?_insert, if_neg behind] at present
        refine ⟨version, resource, reported, present, (findIn_of_ne behind _).symm ▸ offered, ?_⟩
        intro otherVersion otherResource before
        by_cases same : otherVersion = head.1
        · have free := room otherResource
          rw [get?_served] at free
          rw [same, findIn_head]
          exact free
        · have later := least otherVersion otherResource before
          rw [find?_insert, if_neg same] at later
          rw [findIn_of_ne same]
          exact later

theorem firstShared_of_merge {first second : StorageMap Entry} {error : BuildError}
    (failed : first.merge second = .error error) :
    ∃ version resource, error = .storageCollision version resource ∧
      first.FirstShared second version resource := by
  obtain ⟨version, resource, reported, present, offered, least⟩ :=
    addVersions_error second.increasing failed
  refine ⟨version, resource, reported, ⟨present, offered⟩, ?_⟩
  intro otherVersion otherResource shared before
  rcases least otherVersion otherResource before with absent | absent
  · rw [Shared, absent] at shared
    exact Bool.false_ne_true shared.1
  · have unserved : second.find? otherVersion otherResource = none := absent
    rw [Shared, unserved] at shared
    exact Bool.false_ne_true shared.2

/-- The merge of two maps fails with the first resource that they share. -/
theorem merge_eq_error_iff {first second : StorageMap Entry} {error : BuildError} :
    first.merge second = .error error ↔
      ∃ version resource, error = .storageCollision version resource ∧
        first.FirstShared second version resource := by
  constructor
  · exact firstShared_of_merge
  · rintro ⟨version, resource, rfl, found⟩
    cases merged : first.merge second with
    | ok union =>
        have disjoint := (find?_of_merge merged).1
        exact absurd found.shared (disjoint_iff.1 disjoint version resource)
    | error cause =>
        obtain ⟨otherVersion, otherResource, rfl, other⟩ := firstShared_of_merge merged
        obtain ⟨rfl, rfl⟩ := found.unique other
        rfl

/-- The map has the versions of two others that share nothing, and serves what they serve. -/
structure Union (first second union : StorageMap Entry) : Prop where
  disjoint : first.Disjoint second
  versions : ∀ version,
    union.contains version = (first.contains version || second.contains version)
  entries : ∀ version resource, union.find? version resource =
    (first.find? version resource).or (second.find? version resource)

theorem contains_of_addVersions {versions : List (String × Dict Entry)}
    {map result : StorageMap Entry} (added : addVersions versions map = .ok result)
    (version : String) :
    result.contains version =
      (map.contains version || (Entries.find? version versions).isSome) := by
  induction versions generalizing map with
  | nil =>
      cases added
      simp
  | cons head rest inductionHypothesis =>
      rw [addVersions] at added
      split at added
      · cases added
      next served joined =>
        rw [inductionHypothesis added]
        unfold Dict.contains
        by_cases here : version = head.1
        · simp [here]
        · simp [here, Ne.symm here]

section Union

variable {first second third union other : StorageMap Entry}

theorem Union.unique (joined : Union first second union) (again : Union first second other) :
    union = other := by
  apply Dict.eq_of_bind_get?
  · intro version
    rw [joined.versions, again.versions]
  · intro version resource
    exact (joined.entries version resource).trans (again.entries version resource).symm

theorem union_of_merge (merged : first.merge second = .ok union) : Union first second union where
  disjoint := (find?_of_merge merged).1
  versions := contains_of_addVersions merged
  entries := (find?_of_merge merged).2

/-- A merge succeeds with the union of the maps, and only with that. -/
theorem merge_eq_ok_iff : first.merge second = .ok union ↔ Union first second union := by
  constructor
  · exact union_of_merge
  · intro joined
    obtain ⟨result, merged⟩ := merge_of_disjoint joined.disjoint
    rw [merged, (union_of_merge merged).unique joined]

theorem exists_union (disjoint : first.Disjoint second) : ∃ union, Union first second union := by
  obtain ⟨union, merged⟩ := merge_of_disjoint disjoint
  exact ⟨union, union_of_merge merged⟩

theorem Union.symm (joined : Union first second union) : Union second first union where
  disjoint := fun version resource => (joined.disjoint version resource).symm
  versions := fun version => by rw [joined.versions, Bool.or_comm]
  entries := fun version resource => by
    rw [joined.entries]
    rcases joined.disjoint version resource with absent | absent
    · rw [absent, Option.none_or, Option.or_none]
    · rw [absent, Option.none_or, Option.or_none]

theorem union_empty (map : StorageMap Entry) : Union map .empty map where
  disjoint := fun _ _ => Or.inr rfl
  versions := fun _ => (Bool.or_false _).symm
  entries := fun _ _ => Option.or_none.symm

/-- What shares nothing with a union shares nothing with its parts, and the other way round. -/
theorem Union.disjoint_iff (joined : Union first second union) :
    union.Disjoint third ↔ first.Disjoint third ∧ second.Disjoint third := by
  unfold Disjoint
  simp only [joined.entries, Option.or_eq_none_iff]
  grind

/-- Three maps can be joined from the other end, too. -/
theorem Union.assoc {all : StorageMap Entry} (joined : Union first second union)
    (whole : Union union third all) :
    ∃ rest, Union second third rest ∧ Union first rest all := by
  obtain ⟨firstApart, secondApart⟩ := joined.disjoint_iff.1 whole.disjoint
  obtain ⟨rest, behind⟩ := exists_union secondApart
  have apart : rest.Disjoint first :=
    behind.disjoint_iff.2 ⟨joined.symm.disjoint, fun version resource =>
      (firstApart version resource).symm⟩
  refine ⟨rest, behind, fun version resource => (apart version resource).symm, ?_, ?_⟩
  · intro version
    rw [whole.versions, joined.versions, behind.versions, Bool.or_assoc]
  · intro version resource
    rw [whole.entries, joined.entries, behind.entries, Option.or_assoc]

end Union

/-- The outcome of a merge does not depend on which map comes first. -/
theorem merge_comm (first second : StorageMap Entry) : first.merge second = second.merge first := by
  cases merged : first.merge second with
  | ok union => exact (merge_eq_ok_iff.2 (union_of_merge merged).symm).symm
  | error error =>
      obtain ⟨version, resource, reported, found⟩ := firstShared_of_merge merged
      exact (merge_eq_error_iff.2 ⟨version, resource, reported, found.symm⟩).symm

theorem bind_merge_eq_ok_iff {first second third all : StorageMap Entry} :
    ((first.merge second).bind fun union => union.merge third) = .ok all ↔
      ∃ union, Union first second union ∧ Union union third all := by
  cases merged : first.merge second with
  | error error =>
      have none (union : StorageMap Entry) : ¬ Union first second union := by
        intro joined
        rw [merge_eq_ok_iff.2 joined] at merged
        cases merged
      simp [Except.bind, none]
  | ok union =>
      have joined := union_of_merge merged
      simp only [Except.bind, merge_eq_ok_iff]
      constructor
      · intro whole
        exact ⟨union, joined, whole⟩
      · rintro ⟨other, again, whole⟩
        rw [joined.unique again]
        exact whole

/-- Maps merge where they are disjoint, in any order and any grouping. -/
theorem merge_is_partial_commutative_monoid (first second third : StorageMap Entry) :
    ((∃ union, first.merge second = .ok union) ↔
      ∀ version resource, ¬ first.Shared second version resource) ∧
    (∀ union, first.merge second = .ok union →
      (∀ version, union.contains version = true ↔
        first.contains version = true ∨ second.contains version = true) ∧
      ∀ version resource entry, union.find? version resource = some entry ↔
        first.find? version resource = some entry ∨
          second.find? version resource = some entry) ∧
    (∀ error, first.merge second = .error error ↔
      ∃ version resource, error = .storageCollision version resource ∧
        first.FirstShared second version resource) ∧
    first.merge second = second.merge first ∧
    first.merge .empty = .ok first ∧
    merge .empty first = .ok first ∧
    ∀ all, ((first.merge second).bind fun union => union.merge third) = .ok all ↔
      ((second.merge third).bind fun union => first.merge union) = .ok all := by
  refine ⟨?_, ?_, fun error => merge_eq_error_iff, merge_comm first second,
    merge_eq_ok_iff.2 (union_empty first), merge_eq_ok_iff.2 (union_empty first).symm, ?_⟩
  · rw [← disjoint_iff]
    constructor
    · rintro ⟨union, merged⟩
      exact (union_of_merge merged).disjoint
    · exact merge_of_disjoint
  · intro union merged
    have joined := union_of_merge merged
    refine ⟨fun version => by rw [joined.versions, Bool.or_eq_true], ?_⟩
    intro version resource entry
    rw [joined.entries]
    rcases joined.disjoint version resource with absent | absent
    · simp [absent]
    · simp [absent]
  · intro all
    have exchanged : (fun union => first.merge union) =
        fun union : StorageMap Entry => union.merge first := by
      funext union
      exact merge_comm first union
    rw [exchanged, bind_merge_eq_ok_iff, bind_merge_eq_ok_iff]
    constructor
    · rintro ⟨union, joined, whole⟩
      obtain ⟨rest, behind, around⟩ := joined.assoc whole
      exact ⟨rest, behind, around.symm⟩
    · rintro ⟨rest, behind, around⟩
      obtain ⟨union, joined, whole⟩ := behind.symm.assoc around
      exact ⟨union, joined.symm, whole.symm⟩

/-- One resource may be served in two versions. -/
theorem apart_by_version_merge :
    let first : StorageMap Nat := .singleton "v1" (.singleton "bars" 1)
    let second : StorageMap Nat := .singleton "v2" (.singleton "bars" 2)
    ∃ union, first.merge second = .ok union ∧ second.merge first = .ok union ∧
      union.find? "v1" "bars" = some 1 ∧ union.find? "v2" "bars" = some 2 := by
  intro first second
  obtain ⟨union, merged⟩ : ∃ union, first.merge second = .ok union := ⟨_, rfl⟩
  obtain ⟨_, joined, _, exchanged, _⟩ :=
    merge_is_partial_commutative_monoid first second .empty
  obtain ⟨_, entries⟩ := joined union merged
  refine ⟨union, merged, exchanged ▸ merged, ?_, ?_⟩
  · exact (entries "v1" "bars" 1).2 (Or.inl rfl)
  · exact (entries "v2" "bars" 2).2 (Or.inr rfl)

end ResourceApi.StorageMap
