/-
This file compares two ways to bring the specifications of several calls together. A gate collects
all of them. A dictionary keeps those of the last call for each feature, and what it gives to a gate
can have another answer.
-/

import ResourceApi.Proofs.FeatureGate.History

namespace ResourceApi.FeatureGate

/-- The gate was empty before the calls, and every call has added its specifications. -/
def accumulated (given : List FeatureSpecs) : FeatureGate :=
  given.foldl addVersioned .empty

/-- The specifications of a later call take the place of those of an earlier one. -/
def replaced (given : List FeatureSpecs) : FeatureSpecs :=
  given.foldl (fun known features => known.insertAll features.entries) .empty

/-- All specifications that the calls give for the feature, in the order of the calls. -/
def allGiven (given : List FeatureSpecs) (feature : String) : List FeatureSpec :=
  given.flatMap fun features => specsOf features feature

/-- The specifications of the last call that names the feature. -/
def lastGiven? (feature : String) : List FeatureSpecs → Option (List FeatureSpec)
  | [] => none
  | features :: rest => (lastGiven? feature rest).or (features.get? feature)

def lastGiven (given : List FeatureSpecs) (feature : String) : List FeatureSpec :=
  (lastGiven? feature given).getD []

/-- Every specification that is reached is covered by a later one. -/
def Covered (emulation : Option Version) (last specs : List FeatureSpec) : Prop :=
  ∀ spec ∈ specs, Reached emulation spec →
    ∃ other ∈ last, Reached emulation other ∧ spec.version ≤ other.version

section Given

variable (given : List FeatureSpecs) (feature : String)

theorem get?_replaced (known : FeatureSpecs) :
    (given.foldl (fun known features => known.insertAll features.entries) known).get? feature =
      (lastGiven? feature given).or (known.get? feature) := by
  induction given generalizing known with
  | nil => rfl
  | cons features rest inductionHypothesis =>
      rw [List.foldl_cons, inductionHypothesis, Dict.get?_insertAll features.increasing, lastGiven?,
        Option.or_assoc]
      rfl

theorem specsOf_replaced : specsOf (replaced given) feature = lastGiven given feature := by
  rw [specsOf, replaced, get?_replaced, Dict.get?_empty, Option.or_none, lastGiven]

variable {given feature}

theorem lastGiven?_eq_none_iff :
    lastGiven? feature given = none ↔ ∀ features ∈ given, features.get? feature = none := by
  induction given with
  | nil => simp [lastGiven?]
  | cons features rest inductionHypothesis =>
      rw [lastGiven?, Option.or_eq_none_iff, inductionHypothesis, List.forall_mem_cons, and_comm]

theorem allGiven_cons (features : FeatureSpecs) :
    allGiven (features :: given) feature =
      specsOf features feature ++ allGiven given feature :=
  List.flatMap_cons

theorem allGiven_eq_nil (unnamed : lastGiven? feature given = none) :
    allGiven given feature = [] := by
  rw [allGiven, List.flatMap_eq_nil_iff]
  intro features inside
  rw [specsOf, lastGiven?_eq_none_iff.1 unnamed features inside, Option.getD_none]

/-- The specifications of earlier calls come first. -/
theorem exists_allGiven_eq :
    ∃ earlier, allGiven given feature = earlier ++ lastGiven given feature := by
  induction given with
  | nil => exact ⟨[], rfl⟩
  | cons features rest inductionHypothesis =>
      rw [allGiven_cons, lastGiven, lastGiven?]
      cases named : lastGiven? feature rest with
      | none =>
          rw [allGiven_eq_nil named, List.append_nil]
          exact ⟨[], rfl⟩
      | some last =>
          obtain ⟨earlier, same⟩ := inductionHypothesis
          rw [same, lastGiven, named, ← List.append_assoc]
          exact ⟨_, rfl⟩

/-- A feature that no two calls name has the specifications of one call only. -/
theorem allGiven_eq_lastGiven (once : given.Pairwise fun first second =>
      ¬ (first.contains feature = true ∧ second.contains feature = true)) :
    allGiven given feature = lastGiven given feature := by
  induction given with
  | nil => rfl
  | cons features rest inductionHypothesis =>
      obtain ⟨apart, onceLater⟩ := List.pairwise_cons.1 once
      rw [allGiven_cons, lastGiven, lastGiven?]
      cases named : features.get? feature with
      | none =>
          rw [inductionHypothesis onceLater, specsOf, named, Option.or_none]
          rfl
      | some specs =>
          have unnamed : lastGiven? feature rest = none := by
            refine lastGiven?_eq_none_iff.2 fun other inside => Dict.contains_eq_false_iff.1 ?_
            have here := Dict.contains_eq_true_iff.2 ⟨specs, named⟩
            exact Bool.eq_false_iff.2 fun again => apart other inside ⟨here, again⟩
          rw [allGiven_eq_nil unnamed, unnamed, specsOf, named, List.append_nil]
          rfl

end Given

section Known

variable (feature : String)

theorem contains_addFeatures (features : List (String × List FeatureSpec)) (known : FeatureSpecs) :
    (features.foldl addFeature known).contains feature =
      ((Entries.find? feature features).isSome || known.contains feature) := by
  induction features generalizing known with
  | nil => rfl
  | cons head rest inductionHypothesis =>
      rw [List.foldl_cons, inductionHypothesis, addFeature, Dict.contains, Dict.get?_insert,
        Entries.find?_cons]
      by_cases here : head.1 = feature
      · rw [if_pos here, if_pos here.symm]
        simp
      · rw [if_neg here, if_neg (Ne.symm here)]
        rfl

/-- A gate knows the features that some call has named. -/
theorem contains_accumulated (given : List FeatureSpecs) :
    (accumulated given).known.contains feature = (lastGiven? feature given).isSome := by
  have run : ∀ gate : FeatureGate, (given.foldl addVersioned gate).known.contains feature =
      ((lastGiven? feature given).isSome || gate.known.contains feature) := by
    induction given with
    | nil => exact fun gate => rfl
    | cons features rest inductionHypothesis =>
        intro gate
        rw [List.foldl_cons, inductionHypothesis, addVersioned, contains_addFeatures, lastGiven?,
          Option.isSome_or, Bool.or_assoc]
        rfl
  rw [accumulated, run, Bool.or_eq_left_iff_imp]
  exact nofun

theorem arranges_accumulated (given : List FeatureSpecs) :
    Arranges (allGiven given feature) (specsOf (accumulated given).known feature) := by
  have arranged := (follows_ofHistory (given.map .addVersioned)).arranged feature
  rw [ofHistory, List.foldl_map, added, List.flatMap_map] at arranged
  exact arranged

/-- Both gates know the same features. -/
theorem contains_replaced (given : List FeatureSpecs) :
    (FeatureGate.empty.addVersioned (replaced given)).known.contains feature =
      (accumulated given).known.contains feature := by
  have once : (accumulated [replaced given]).known.contains feature =
      ((replaced given).get? feature).isSome :=
    contains_accumulated feature [replaced given]
  rw [replaced, get?_replaced, Dict.get?_empty, Option.or_none, ← contains_accumulated] at once
  exact once

theorem arranges_replaced (given : List FeatureSpecs) :
    Arranges (lastGiven given feature)
      (specsOf (FeatureGate.empty.addVersioned (replaced given)).known feature) := by
  have once := arranges_accumulated feature [replaced given]
  rwa [allGiven_cons, allGiven_eq_nil rfl, List.append_nil, specsOf_replaced] at once

end Known

section Answers

variable {emulation : Option Version} {earlier last : List FeatureSpec} {spec : FeatureSpec}

/-- Specifications that are covered by the later ones do not count. -/
theorem newest_append_iff (covered : Covered emulation last (earlier ++ last)) :
    Newest emulation (earlier ++ last) spec ↔ Newest emulation last spec := by
  rw [newest_iff, newest_iff, withVersion_append]
  constructor
  · rintro ⟨reached, greatest, stands⟩
    have inLast (other : FeatureSpec) (inside : other ∈ last) :
        Reached emulation other → other.version ≤ spec.version :=
      greatest other (List.mem_append_right _ inside)
    have whole : spec ∈ earlier ++ last := by
      have found := List.mem_of_getLast? stands
      rw [← withVersion_append] at found
      exact (mem_withVersion.1 found).1
    -- The newest of all is covered itself, so one of the last has its version.
    obtain ⟨other, inside, otherReached, notOlder⟩ := covered spec whole reached
    have same := Version.le_antisymm (inLast other inside otherReached) notOlder
    have present : withVersion last spec.version ≠ [] :=
      List.ne_nil_of_mem (mem_withVersion.2 ⟨inside, same⟩)
    rw [List.getLast?_append, List.getLast?_eq_some_getLast present, Option.some_or,
      ← List.getLast?_eq_some_getLast present] at stands
    exact ⟨reached, inLast, stands⟩
  · rintro ⟨reached, greatest, stands⟩
    refine ⟨reached, fun other inside otherReached => ?_, ?_⟩
    · obtain ⟨newer, listed, newerReached, notOlder⟩ := covered other inside otherReached
      exact Version.le_trans notOlder (greatest newer listed newerReached)
    · rw [List.getLast?_append, stands, Option.some_or]

variable {gate other : FeatureGate} {feature : String}

/-- Both gates have the same specification in force exactly if the last ones cover all. -/
theorem currentSpec_eq_iff_covered (alike : gate.emulation = other.emulation)
    (few : Arranges last (specsOf gate.known feature))
    (all : Arranges (earlier ++ last) (specsOf other.known feature)) :
    gate.currentSpec feature = other.currentSpec feature ↔
      Covered gate.emulation last (earlier ++ last) := by
  constructor
  · intro same spec inside reached
    cases current : other.currentSpec feature with
    | none =>
        have unreached := all.currentSpec_eq_none_iff.1 current spec inside
        rw [← alike] at unreached
        exact absurd reached unreached
    | some newest =>
        rw [current] at same
        obtain ⟨newestReached, _, stands⟩ := newest_iff.1 (few.currentSpec_eq_some_iff.1 same)
        have listed := (mem_withVersion.1 (List.mem_of_getLast? stands)).1
        obtain ⟨_, greatest, _⟩ := newest_iff.1 (all.currentSpec_eq_some_iff.1 current)
        rw [← alike] at greatest
        exact ⟨newest, listed, newestReached, greatest spec inside reached⟩
  · intro covered
    refine Option.ext fun spec => ?_
    rw [few.currentSpec_eq_some_iff, all.currentSpec_eq_some_iff, ← alike,
      newest_append_iff covered]

/-- So it is for a gate that knows the dictionary and one that has collected all. -/
theorem currentSpec_replaced_iff {given : List FeatureSpecs}
    (few : gate.known = (FeatureGate.empty.addVersioned (replaced given)).known)
    (all : other.known = (accumulated given).known) (alike : gate.emulation = other.emulation)
    (feature : String) :
    gate.currentSpec feature = other.currentSpec feature ↔
      Covered gate.emulation (lastGiven given feature) (allGiven given feature) := by
  have last := few ▸ arranges_replaced feature given
  have collected := all ▸ arranges_accumulated feature given
  obtain ⟨earlier, whole⟩ := @exists_allGiven_eq given feature
  rw [whole] at collected ⊢
  exact currentSpec_eq_iff_covered alike last collected

theorem isEnabled_congr (same : gate.currentSpec feature = other.currentSpec feature)
    (overrides : gate.overrides = other.overrides) :
    gate.isEnabled feature = other.isEnabled feature := by
  rw [isEnabled, isEnabled, same, overrides]

end Answers

end ResourceApi.FeatureGate
