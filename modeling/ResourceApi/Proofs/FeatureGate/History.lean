/-
This file says which answers a gate gives after any history of calls. The specifications of a
feature may come in any order and in any number of calls. The newest of those that are reached
counts, and of several with one version the one that came last.
-/

import ResourceApi.Proofs.FeatureGate

namespace ResourceApi

universe u v

/-- Of two answers, the one from the end of the list counts. -/
theorem findSome?_reverse_concat {Element : Type u} {Value : Type v}
    (reads : Element → Option Value) (list : List Element) (last : Element) :
    (list ++ [last]).reverse.findSome? reads = (reads last).or (list.reverse.findSome? reads) := by
  rw [List.reverse_append, List.findSome?_append, List.reverse_singleton,
    List.findSome?_singleton]

/-- Versions that are not above each other have the same parts. -/
theorem Version.le_antisymm {first second : Version} (below : first ≤ second)
    (above : second ≤ first) : first = second := by
  have notLess := Version.not_lt_iff.2 below
  have notGreater := Version.not_lt_iff.2 above
  rw [Version.lt_iff] at notLess notGreater
  have major : first.major = second.major := UInt32.toNat_inj.1 (by omega)
  have minor : first.minor = second.minor := UInt32.toNat_inj.1 (by omega)
  have patch : first.patch = second.patch := UInt32.toNat_inj.1 (by omega)
  cases first
  cases second
  cases major
  cases minor
  cases patch
  rfl

namespace FeatureGate

/-- These are the calls that change a gate. -/
inductive Change where
  | addVersioned (features : FeatureSpecs)
  | override (overrides : Dict Bool)
  | withEmulation (version : Version)

namespace Change

/-- The specifications that the call adds for the feature. -/
def specs (feature : String) : Change → List FeatureSpec
  | .addVersioned features => (features.get? feature).getD []
  | .override _ => []
  | .withEmulation _ => []

def enabled? (feature : String) : Change → Option Bool
  | .override overrides => overrides.get? feature
  | _ => none

/-- A gate emulates no patches. -/
def emulation? : Change → Option Version
  | .withEmulation version => some version.majorMinor
  | _ => none

end Change

def change (gate : FeatureGate) : Change → FeatureGate
  | .addVersioned features => gate.addVersioned features
  | .override overrides => gate.override overrides
  | .withEmulation version => gate.withEmulation version

/-- This gate was empty before the calls. -/
def ofHistory (history : List Change) : FeatureGate :=
  history.foldl change .empty

/-- All specifications that were added for the feature, in the order in which they came. -/
def added (history : List Change) (feature : String) : List FeatureSpec :=
  history.flatMap (Change.specs feature)

/-- The last override of the feature. -/
def chosen? (history : List Change) (feature : String) : Option Bool :=
  history.reverse.findSome? (Change.enabled? feature)

/-- The last version that was to be emulated. -/
def emulated? (history : List Change) : Option Version :=
  history.reverse.findSome? Change.emulation?

/-- Where no version is emulated, every specification is reached. -/
def Reached (emulation : Option Version) (spec : FeatureSpec) : Prop :=
  ∀ version, emulation = some version → spec.version ≤ version

instance (emulation : Option Version) (spec : FeatureSpec) : Decidable (Reached emulation spec) :=
  match emulation with
  | none => .isTrue nofun
  | some version =>
      if below : spec.version ≤ version then .isTrue fun _ same => Option.some.inj same ▸ below
      else .isFalse fun reached => below (reached version rfl)

/-- Of those with the greatest version that is reached, this one is the last. -/
def Newest (emulation : Option Version) (specs : List FeatureSpec) (spec : FeatureSpec) : Prop :=
  ∃ earlier later, specs = earlier ++ spec :: later ∧ Reached emulation spec ∧
    (∀ other ∈ earlier, Reached emulation other → other.version ≤ spec.version) ∧
    ∀ other ∈ later, Reached emulation other → other.version < spec.version

/-- The specifications that have the version, in their order. -/
def withVersion (specs : List FeatureSpec) (version : Version) : List FeatureSpec :=
  specs.filter fun spec => spec.version = version

@[simp] theorem withVersion_append (first second : List FeatureSpec) (version : Version) :
    withVersion (first ++ second) version =
      withVersion first version ++ withVersion second version :=
  List.filter_append ..

theorem mem_withVersion {specs : List FeatureSpec} {version : Version} {spec : FeatureSpec} :
    spec ∈ withVersion specs version ↔ spec ∈ specs ∧ spec.version = version := by
  rw [withVersion, List.mem_filter, decide_eq_true_iff]

section Newest

variable {emulation : Option Version} {specs others : List FeatureSpec} {spec : FeatureSpec}

/-- Which specification is the newest depends on the order of those with its own version only. -/
theorem newest_iff :
    Newest emulation specs spec ↔ Reached emulation spec ∧
      (∀ other ∈ specs, Reached emulation other → other.version ≤ spec.version) ∧
      (withVersion specs spec.version).getLast? = some spec := by
  simp only [withVersion, getLast?_filter_eq_some_iff, decide_eq_true_eq]
  constructor
  · rintro ⟨earlier, later, rfl, reached, before, behind⟩
    refine ⟨reached, ?_, earlier, later, rfl, trivial, ?_⟩
    · intro other inside otherReached
      rcases List.mem_append.1 inside with inFront | inRest
      · exact before other inFront otherReached
      · rcases List.mem_cons.1 inRest with rfl | inBack
        · exact Nat.le_refl _
        · exact Version.le_of_lt (behind other inBack otherReached)
    · intro other inBack same
      have otherReached : Reached emulation other := by
        intro version emulates
        rw [same]
        exact reached version emulates
      have less := behind other inBack otherReached
      rw [same] at less
      exact Nat.lt_irrefl _ less
  · rintro ⟨reached, greatest, earlier, later, rfl, _, differs⟩
    refine ⟨earlier, later, rfl, reached, ?_, ?_⟩
    · intro other inFront otherReached
      exact greatest other (List.mem_append_left _ inFront) otherReached
    · intro other inBack otherReached
      have notAbove := greatest other
        (List.mem_append_right _ (List.mem_cons_of_mem _ inBack)) otherReached
      refine Version.not_le_iff.1 fun notBelow => ?_
      exact differs other inBack (Version.le_antisymm notAbove notBelow)

/-- Lists hold the same specifications if they hold the same of each version. -/
theorem mem_congr (same : ∀ version, withVersion specs version = withVersion others version) :
    spec ∈ specs ↔ spec ∈ others := by
  have here := @mem_withVersion specs spec.version spec
  have there := @mem_withVersion others spec.version spec
  rw [same] at here
  simpa using here.symm.trans there

/-- The order of the specifications matters within each version only. -/
theorem newest_congr (same : ∀ version, withVersion specs version = withVersion others version) :
    Newest emulation specs spec ↔ Newest emulation others spec := by
  rw [newest_iff, newest_iff, same]
  simp only [mem_congr same]

/-- If no version occurs twice, then the order does not matter at all. -/
theorem newest_perm (reordered : specs.Perm others)
    (different : (specs.map FeatureSpec.version).Nodup) :
    Newest emulation specs spec ↔ Newest emulation others spec := by
  refine newest_congr fun version => ?_
  have again : (withVersion specs version).Perm (withVersion others version) :=
    reordered.filter _
  have few : (withVersion specs version).length ≤ 1 := by
    have once := List.nodup_iff_count.1 different version
    rw [List.count, List.countP_map, List.countP_eq_length_filter] at once
    exact once
  match alone : withVersion specs version with
  | [] =>
      rw [alone] at again
      exact again.nil_eq
  | [single] =>
      rw [alone] at again
      exact List.singleton_perm.1 again
  | first :: second :: rest =>
      rw [alone] at few
      simp at few

end Newest

/-- The list is ordered by versions and, within a version, by addition. -/
structure Arranges (added specs : List FeatureSpec) : Prop where
  sorted : Sorted specs
  stable : ∀ version, withVersion specs version = withVersion added version

/-- A specification goes behind those that have its version already. -/
theorem withVersion_insertSpec (spec : FeatureSpec) {specs : List FeatureSpec}
    (sorted : Sorted specs) (version : Version) :
    withVersion (insertSpec spec specs) version =
      withVersion specs version ++ withVersion [spec] version := by
  induction specs with
  | nil => rfl
  | cons head rest inductionHypothesis =>
      obtain ⟨above, tail⟩ := List.pairwise_cons.1 sorted
      rw [insertSpec]
      split
      next older =>
        -- Nothing from the head on has the version of the new one.
        by_cases own : spec.version = version
        · have newer : ∀ other ∈ head :: rest, version < other.version := by
            intro other inside
            rw [← own]
            rcases List.mem_cons.1 inside with rfl | behind
            · exact older
            · exact Nat.lt_of_lt_of_le older (above other behind)
          have nothing : withVersion (head :: rest) version = [] := by
            rw [withVersion, List.filter_eq_nil_iff]
            intro other inside
            rw [decide_eq_true_iff]
            rintro rfl
            exact Nat.lt_irrefl _ (newer other inside)
          rw [nothing, List.nil_append, ← List.singleton_append, withVersion_append, nothing,
            List.append_nil]
        · simp [withVersion, own]
      next notOlder =>
        have further := inductionHypothesis tail
        rw [← List.singleton_append, withVersion_append, further, ← List.append_assoc,
          ← withVersion_append, List.singleton_append]

namespace Arranges

variable {added specs : List FeatureSpec}

theorem insertSpec (arranges : Arranges added specs) (spec : FeatureSpec) :
    Arranges (added ++ [spec]) (insertSpec spec specs) where
  sorted := sorted_insertSpec spec arranges.sorted
  stable version := by
    rw [withVersion_insertSpec spec arranges.sorted, arranges.stable, withVersion_append]

theorem insertSpecs (arranges : Arranges added specs) (more : List FeatureSpec) :
    Arranges (added ++ more) (insertSpecs more specs) := by
  induction more generalizing added specs with
  | nil => rwa [List.append_nil]
  | cons spec rest inductionHypothesis =>
      rw [List.append_cons]
      exact inductionHypothesis (arranges.insertSpec spec)

end Arranges

/-- These are the specifications that a gate knows of the feature. -/
def specsOf (known : FeatureSpecs) (feature : String) : List FeatureSpec :=
  (known.get? feature).getD []

@[simp] theorem specsOf_addFeature (known : FeatureSpecs) (added : String × List FeatureSpec)
    (feature : String) :
    specsOf (addFeature known added) feature =
      if feature = added.1 then insertSpecs added.2 (specsOf known feature)
      else specsOf known feature := by
  simp only [specsOf, addFeature, Dict.get?_insert]
  split
  next same => rw [same, Option.getD_some]
  · rfl

/-- What is added for the feature joins what is known of it, and nothing else does. -/
theorem specsOf_addFeatures {features : List (String × List FeatureSpec)}
    (increasing : Entries.Increasing features) (known : FeatureSpecs) (feature : String) :
    specsOf (features.foldl addFeature known) feature =
      insertSpecs ((Entries.find? feature features).getD []) (specsOf known feature) := by
  induction features generalizing known with
  | nil => rfl
  | cons head rest inductionHypothesis =>
      rw [List.foldl_cons, inductionHypothesis (List.pairwise_cons.1 increasing).2,
        specsOf_addFeature, Entries.find?_cons]
      by_cases here : head.1 = feature
      · subst here
        rw [if_pos rfl, if_pos rfl, Entries.find?_eq_none_of_above increasing]
        rfl
      · rw [if_neg (Ne.symm here), if_neg here]

/-- The specification in force is the last of those that are reached. -/
theorem currentSpec_eq (gate : FeatureGate) (feature : String) :
    gate.currentSpec feature =
      ((specsOf gate.known feature).filter fun spec => Reached gate.emulation spec).getLast? := by
  unfold currentSpec specsOf
  cases gate.known.get? feature with
  | none => rfl
  | some specs =>
      cases gate.emulation with
      | none => exact congrArg List.getLast? (List.filter_eq_self.2 fun _ _ => rfl).symm
      | some version => simp [Reached]

/-- In a list in order, the last that is reached is the newest. -/
theorem getLast?_reached_eq_some_iff {emulation : Option Version} {specs : List FeatureSpec}
    {spec : FeatureSpec} (sorted : Sorted specs) :
    (specs.filter fun spec => Reached emulation spec).getLast? = some spec ↔
      Newest emulation specs spec := by
  simp only [getLast?_filter_eq_some_iff, decide_eq_true_iff]
  constructor
  · rintro ⟨earlier, later, rfl, reached, unreached⟩
    refine ⟨earlier, later, rfl, reached, ?_, ?_⟩
    · intro other before _
      exact (List.pairwise_append.1 sorted).2.2 other before spec List.mem_cons_self
    · intro other behind otherReached
      exact absurd otherReached (unreached other behind)
  · rintro ⟨earlier, later, rfl, reached, _, older⟩
    refine ⟨earlier, later, rfl, reached, ?_⟩
    intro other behind otherReached
    have above := (List.pairwise_cons.1 (List.pairwise_append.1 sorted).2.1).1 other behind
    exact Version.not_lt_iff.2 above (older other behind otherReached)

section Arranged

variable {gate : FeatureGate} {added : List FeatureSpec} {feature : String}
  (arranges : Arranges added (specsOf gate.known feature))

include arranges

theorem Arranges.currentSpec_eq_some_iff {spec : FeatureSpec} :
    gate.currentSpec feature = some spec ↔ Newest gate.emulation added spec := by
  rw [currentSpec_eq, getLast?_reached_eq_some_iff arranges.sorted]
  exact newest_congr arranges.stable

theorem Arranges.currentSpec_eq_none_iff :
    gate.currentSpec feature = none ↔ ∀ spec ∈ added, ¬ Reached gate.emulation spec := by
  rw [currentSpec_eq, List.getLast?_eq_none_iff, List.filter_eq_nil_iff]
  simp only [mem_congr arranges.stable, decide_eq_true_iff]

end Arranged

/-- The gate is what the calls have made of an empty one. -/
structure Follows (gate : FeatureGate) (history : List Change) : Prop where
  arranged : ∀ feature, Arranges (added history feature) (specsOf gate.known feature)
  overridden : ∀ feature, gate.overrides.get? feature = chosen? history feature
  emulates : gate.emulation = emulated? history

theorem follows_empty : Follows .empty [] where
  arranged _ := ⟨List.Pairwise.nil, fun _ => rfl⟩
  overridden _ := rfl
  emulates := rfl

theorem added_append (history : List Change) (change : Change) (feature : String) :
    added (history ++ [change]) feature = added history feature ++ change.specs feature := by
  simp [added]

theorem Follows.change {gate : FeatureGate} {history : List Change}
    (follows : gate.Follows history) (change : Change) :
    (gate.change change).Follows (history ++ [change]) where
  arranged feature := by
    rw [added_append]
    cases change with
    | addVersioned features =>
        have known : specsOf (gate.addVersioned features).known feature =
            insertSpecs ((features.get? feature).getD []) (specsOf gate.known feature) :=
          specsOf_addFeatures features.increasing gate.known feature
        rw [FeatureGate.change, known]
        exact (follows.arranged feature).insertSpecs _
    | override overrides =>
        rw [Change.specs, List.append_nil]
        exact follows.arranged feature
    | withEmulation version =>
        rw [Change.specs, List.append_nil]
        exact follows.arranged feature
  overridden feature := by
    have last : chosen? (history ++ [change]) feature =
        (change.enabled? feature).or (chosen? history feature) := findSome?_reverse_concat ..
    rw [last, ← follows.overridden]
    cases change with
    | addVersioned features => rfl
    | override overrides => exact Dict.get?_insertAll overrides.increasing feature
    | withEmulation version => rfl
  emulates := by
    have last : emulated? (history ++ [change]) = change.emulation?.or (emulated? history) :=
      findSome?_reverse_concat ..
    rw [last, ← follows.emulates]
    cases change <;> rfl

theorem follows_ofHistory (history : List Change) : (ofHistory history).Follows history := by
  have run : ∀ (gate : FeatureGate) (before : List Change), gate.Follows before →
      (history.foldl FeatureGate.change gate).Follows (before ++ history) := by
    induction history with
    | nil => intro gate before follows; rwa [List.append_nil]
    | cons change rest inductionHypothesis =>
        intro gate before follows
        rw [List.append_cons]
        exact inductionHypothesis _ _ (follows.change change)
  exact run .empty [] follows_empty

section Answers

variable (history : List Change) (feature : String)

theorem currentSpec_ofHistory_eq_some_iff (spec : FeatureSpec) :
    (ofHistory history).currentSpec feature = some spec ↔
      Newest (emulated? history) (added history feature) spec := by
  have follows := follows_ofHistory history
  rw [(follows.arranged feature).currentSpec_eq_some_iff, follows.emulates]

theorem currentSpec_ofHistory_eq_none_iff :
    (ofHistory history).currentSpec feature = none ↔
      ∀ spec ∈ added history feature, ¬ Reached (emulated? history) spec := by
  have follows := follows_ofHistory history
  rw [(follows.arranged feature).currentSpec_eq_none_iff, follows.emulates]

theorem isEnabled_ofHistory :
    (ofHistory history).isEnabled feature =
      ((ofHistory history).currentSpec feature).elim false fun spec =>
        if spec.locked then spec.default else (chosen? history feature).getD spec.default := by
  rw [isEnabled, (follows_ofHistory history).overridden]
  cases (ofHistory history).currentSpec feature <;> rfl

/-- A gate answers by the newest specification that was added and is reached. -/
theorem answers_follow_added_specs :
    (∀ spec, (ofHistory history).currentSpec feature = some spec ↔
      Newest (emulated? history) (added history feature) spec) ∧
    ((ofHistory history).currentSpec feature = none ↔
      ∀ spec ∈ added history feature, ¬ Reached (emulated? history) spec) ∧
    (∀ spec, Newest (emulated? history) (added history feature) spec →
      (ofHistory history).isEnabled feature =
        if spec.locked then spec.default else (chosen? history feature).getD spec.default) ∧
    ((∀ spec ∈ added history feature, ¬ Reached (emulated? history) spec) →
      (ofHistory history).isEnabled feature = false) ∧
    ∀ other, (added history feature).Perm (added other feature) →
      ((added history feature).map FeatureSpec.version).Nodup →
      emulated? other = emulated? history →
      (ofHistory other).currentSpec feature = (ofHistory history).currentSpec feature ∧
        (chosen? other feature = chosen? history feature →
          (ofHistory other).isEnabled feature = (ofHistory history).isEnabled feature) := by
  refine ⟨currentSpec_ofHistory_eq_some_iff history feature,
    currentSpec_ofHistory_eq_none_iff history feature, ?_, ?_, ?_⟩
  · intro spec newest
    rw [isEnabled_ofHistory, (currentSpec_ofHistory_eq_some_iff history feature spec).2 newest]
    rfl
  · intro unreached
    rw [isEnabled_ofHistory, (currentSpec_ofHistory_eq_none_iff history feature).2 unreached]
    rfl
  · intro other reordered different sameEmulation
    have sameSpec : (ofHistory other).currentSpec feature =
        (ofHistory history).currentSpec feature := by
      refine Option.ext fun spec => ?_
      rw [currentSpec_ofHistory_eq_some_iff, currentSpec_ofHistory_eq_some_iff, sameEmulation,
        newest_perm reordered different]
    refine ⟨sameSpec, fun sameChoice => ?_⟩
    rw [isEnabled_ofHistory, isEnabled_ofHistory, sameSpec, sameChoice]

end Answers

section Caching

def firstCaching : FeatureSpec := ⟨⟨1, 0, 0⟩, false, .alpha, false⟩

/-- A version without a patch does not reach this one. -/
def patchedCaching : FeatureSpec := ⟨⟨1, 1, 3⟩, false, .deprecated, true⟩

def finalCaching : FeatureSpec := ⟨⟨1, 2, 0⟩, true, .generallyAvailable, true⟩

def cachingTogether : List Change :=
  [.addVersioned (.singleton "caching" [firstCaching, patchedCaching, finalCaching]),
    .override (.singleton "caching" true), .withEmulation ⟨1, 1, 9⟩]

def cachingDivided : List Change :=
  [.addVersioned (.singleton "caching" [finalCaching]), .withEmulation ⟨1, 1, 0⟩,
    .addVersioned (.singleton "caching" [patchedCaching, firstCaching]),
    .override (.singleton "caching" true)]

def cachingEarly : List Change :=
  cachingDivided ++ [.withEmulation ⟨0, 9, 0⟩]

/-- The override counts for the first specification, and for none before that. -/
theorem caching_in_either_order :
    (added cachingTogether "caching").Perm (added cachingDivided "caching") ∧
      Newest (emulated? cachingTogether) (added cachingTogether "caching") firstCaching ∧
      (ofHistory cachingTogether).isEnabled "caching" = true ∧
      (ofHistory cachingDivided).isEnabled "caching" = true ∧
      (ofHistory cachingEarly).isEnabled "caching" = false := by
  have reordered : (added cachingTogether "caching").Perm (added cachingDivided "caching") := by
    decide +kernel
  have newest : Newest (emulated? cachingTogether) (added cachingTogether "caching")
      firstCaching :=
    ⟨[], [patchedCaching, finalCaching], by decide +kernel, by decide +kernel, nofun,
      by decide +kernel⟩
  obtain ⟨_, _, whereNewest, _, same⟩ := answers_follow_added_specs cachingTogether "caching"
  obtain ⟨_, _, _, whereUnreached, _⟩ := answers_follow_added_specs cachingEarly "caching"
  have together : (ofHistory cachingTogether).isEnabled "caching" = true :=
    whereNewest firstCaching newest
  have divided := (same cachingDivided reordered (by decide +kernel) rfl).2 rfl
  exact ⟨reordered, newest, together, divided.trans together, whereUnreached (by decide +kernel)⟩

end Caching

end FeatureGate

end ResourceApi
