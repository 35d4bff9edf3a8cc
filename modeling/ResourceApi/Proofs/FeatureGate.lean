/-
This file shows that the specifications of a feature stay in the order of their versions, which one
of them is in force, and when the overrides of a gate are valid.
-/

import ResourceApi.FeatureGate
import ResourceApi.Proofs.Dict
import ResourceApi.Proofs.Version

namespace ResourceApi

universe u

/-- The last element that is wanted is the one behind which none is. -/
theorem getLast?_filter_eq_some_iff {Element : Type u} {wanted : Element → Bool}
    {list : List Element} {last : Element} :
    (list.filter wanted).getLast? = some last ↔
      ∃ earlier later, list = earlier ++ last :: later ∧ wanted last = true ∧
        ∀ other ∈ later, ¬ wanted other = true := by
  simp only [List.getLast?_eq_some_iff, List.filter_eq_append_iff, List.filter_eq_cons_iff,
    List.filter_eq_nil_iff]
  constructor
  · rintro ⟨_, front, _, rfl, rfl, skipped, later, rfl, _, found, none⟩
    exact ⟨front ++ skipped, later, by rw [List.append_assoc], found, none⟩
  · rintro ⟨earlier, later, rfl, found, none⟩
    exact ⟨earlier.filter wanted, earlier, last :: later, rfl, rfl, [], later, rfl, nofun, found,
      none⟩

namespace FeatureGate

/-- No specification stands behind one that is newer. -/
def Sorted (specs : List FeatureSpec) : Prop :=
  specs.Pairwise fun first second => first.version ≤ second.version

theorem mem_insertSpec {spec other : FeatureSpec} {specs : List FeatureSpec} :
    other ∈ insertSpec spec specs ↔ other = spec ∨ other ∈ specs := by
  induction specs with
  | nil => simp [insertSpec]
  | cons head rest inductionHypothesis =>
      rw [insertSpec]
      split
      · simp
      · simp only [List.mem_cons, inductionHypothesis]
        grind

theorem sorted_insertSpec (spec : FeatureSpec) {specs : List FeatureSpec} (sorted : Sorted specs) :
    Sorted (insertSpec spec specs) := by
  induction specs with
  | nil => exact List.pairwise_singleton _ spec
  | cons head rest inductionHypothesis =>
      obtain ⟨above, tail⟩ := List.pairwise_cons.1 sorted
      rw [insertSpec]
      split
      next older =>
        refine List.pairwise_cons.2 ⟨?_, sorted⟩
        intro other member
        have below := Version.le_of_lt older
        rcases List.mem_cons.1 member with rfl | inside
        · exact below
        · exact Version.le_trans below (above other inside)
      next notOlder =>
        refine List.pairwise_cons.2 ⟨?_, inductionHypothesis tail⟩
        intro other member
        rcases mem_insertSpec.1 member with rfl | inside
        · exact Version.not_lt_iff.1 notOlder
        · exact above other inside

theorem sorted_insertSpecs (added : List FeatureSpec) {specs : List FeatureSpec}
    (sorted : Sorted specs) : Sorted (insertSpecs added specs) := by
  induction added generalizing specs with
  | nil => exact sorted
  | cons spec rest inductionHypothesis => exact inductionHypothesis (sorted_insertSpec spec sorted)

/-- Overrides that follow each other are those of both requests, where the later one wins. -/
theorem override_override (gate : FeatureGate) (first second : Dict Bool) :
    (gate.override first).override second = gate.override (first.insertAll second.entries) := by
  unfold override
  rw [Dict.insertAll_insertAll]

/-- Gates come about in these ways. -/
inductive Made : FeatureGate → Prop
  | empty : Made .empty
  | addVersioned {gate : FeatureGate} (features : FeatureSpecs) (made : Made gate) :
      Made (gate.addVersioned features)
  | override {gate : FeatureGate} (overrides : Dict Bool) (made : Made gate) :
      Made (gate.override overrides)
  | withEmulation {gate : FeatureGate} (version : Version) (made : Made gate) :
      Made (gate.withEmulation version)

/-- The specifications of every known feature are in order. -/
def Ordered (known : FeatureSpecs) : Prop :=
  ∀ feature specs, known.get? feature = some specs → Sorted specs

theorem ordered_addFeature {known : FeatureSpecs} (ordered : Ordered known)
    (feature : String × List FeatureSpec) : Ordered (addFeature known feature) := by
  intro sought specs found
  rw [addFeature, Dict.get?_insert] at found
  split at found
  · cases found
    apply sorted_insertSpecs
    cases before : known.get? feature.1 with
    | none => exact List.Pairwise.nil
    | some specs => exact ordered _ _ before
  · exact ordered _ _ found

theorem ordered_addFeatures (features : List (String × List FeatureSpec)) {known : FeatureSpecs}
    (ordered : Ordered known) : Ordered (features.foldl addFeature known) := by
  induction features generalizing known with
  | nil => exact ordered
  | cons feature rest inductionHypothesis =>
      exact inductionHypothesis (ordered_addFeature ordered feature)

theorem Made.ordered {gate : FeatureGate} (made : gate.Made) : Ordered gate.known := by
  induction made with
  | empty => exact nofun
  | addVersioned features _ inductionHypothesis =>
      exact ordered_addFeatures features.entries inductionHypothesis
  | override _ _ inductionHypothesis => exact inductionHypothesis
  | withEmulation _ _ inductionHypothesis => exact inductionHypothesis

/-- This is the last one of the newest that are not newer than the version. -/
def InForce (gate : FeatureGate) (feature : String) (version : Version) (spec : FeatureSpec) :
    Prop :=
  ∃ earlier later, gate.known.get? feature = some (earlier ++ spec :: later) ∧
    spec.version ≤ version ∧
    (∀ other ∈ earlier, other.version ≤ spec.version) ∧
    ∀ other ∈ later, version < other.version

theorem currentSpec_eq_some_iff {gate : FeatureGate} {feature : String} {version : Version}
    {spec : FeatureSpec} (ordered : Ordered gate.known) (emulates : gate.emulation = some version) :
    gate.currentSpec feature = some spec ↔ gate.InForce feature version spec := by
  unfold currentSpec InForce
  cases found : gate.known.get? feature with
  | none => simp
  | some specs =>
      simp only [emulates, getLast?_filter_eq_some_iff, decide_eq_true_eq, Option.some.injEq]
      constructor
      · rintro ⟨earlier, later, rfl, reached, newer⟩
        have sorted := ordered feature _ found
        refine ⟨earlier, later, rfl, reached, ?_, ?_⟩
        · intro other before
          exact (List.pairwise_append.1 sorted).2.2 other before spec List.mem_cons_self
        · intro other behind
          exact Version.not_le_iff.1 (newer other behind)
      · rintro ⟨earlier, later, rfl, reached, _, newer⟩
        refine ⟨earlier, later, rfl, reached, ?_⟩
        intro other behind
        exact Version.not_le_iff.2 (newer other behind)

/-- A gate has no opinion on the range of emulated versions. -/
theorem emulationOutOfRange_not_mem_problems {gate : FeatureGate} {component name : String}
    {requested lowest highest : Version} :
    .emulationOutOfRange name requested lowest highest ∉ gate.problems component := by
  intro reported
  obtain ⟨entry, _, fault⟩ := List.mem_filterMap.1 reported
  unfold overrideProblem? at fault
  split at fault
  · cases fault
  · split at fault
    · cases fault
    · cases fault

section Emulating

variable {gate : FeatureGate} {version : Version} (ordered : Ordered gate.known)
  (emulates : gate.emulation = some version)

include ordered emulates

/-- An override is accepted where a specification is in force that allows it. -/
theorem overrideProblem?_eq_none_iff {component feature : String} {enabled : Bool} :
    gate.overrideProblem? component feature enabled = none ↔
      ∃ spec, gate.InForce feature version spec ∧
        (spec.locked = true → spec.default = enabled) := by
  simp only [← currentSpec_eq_some_iff ordered emulates]
  unfold overrideProblem?
  cases gate.currentSpec feature with
  | none => simp
  | some spec =>
      simp only [ite_eq_right_iff, reduceCtorEq, imp_false, not_and, ne_eq, Decidable.not_not,
        Option.some.injEq, exists_eq_left']

theorem problems_eq_nil_iff {component : String} :
    gate.problems component = [] ↔
      ∀ feature enabled, gate.overrides.get? feature = some enabled →
        ∃ spec, gate.InForce feature version spec ∧
          (spec.locked = true → spec.default = enabled) := by
  rw [problems, List.filterMap_eq_nil_iff]
  constructor
  · intro accepted feature enabled chosen
    exact (overrideProblem?_eq_none_iff ordered emulates).1
      (accepted (feature, enabled) (Dict.get?_eq_some_iff.1 chosen))
  · intro allowed entry member
    exact (overrideProblem?_eq_none_iff ordered emulates).2
      (allowed entry.1 entry.2 (Dict.get?_eq_some_iff.2 member))

/-- An override that is accepted decides whether the feature is enabled. -/
theorem isEnabled_of_problems {component feature : String} {enabled : Bool}
    (accepted : gate.problems component = [])
    (chosen : gate.overrides.get? feature = some enabled) : gate.isEnabled feature = enabled := by
  obtain ⟨spec, inForce, allows⟩ :=
    (problems_eq_nil_iff ordered emulates).1 accepted feature enabled chosen
  have current := (currentSpec_eq_some_iff ordered emulates).2 inForce
  rw [isEnabled, current]
  cases locked : spec.locked with
  | true => simp [locked, allows locked]
  | false => simp [locked, chosen]

end Emulating

end FeatureGate

end ResourceApi
