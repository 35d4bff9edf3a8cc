/-
This file shows how versions are ordered and moved, and which versions a component may emulate.
-/

import ResourceApi.Version.Effective

namespace ResourceApi

namespace Version

/-- Versions are compared by their major, then by their minor, then by their patch. -/
theorem lt_iff {first second : Version} :
    first < second ↔
      first.major.toNat < second.major.toNat ∨
        first.major.toNat = second.major.toNat ∧
          (first.minor.toNat < second.minor.toNat ∨
            first.minor.toNat = second.minor.toNat ∧
              first.patch.toNat < second.patch.toNat) := by
  have firstMinor := first.minor.toNat_lt
  have firstPatch := first.patch.toNat_lt
  have secondMinor := second.minor.toNat_lt
  have secondPatch := second.patch.toNat_lt
  show first.rank < second.rank ↔ _
  unfold rank UInt32.size
  omega

theorem not_lt_iff {first second : Version} : ¬ first < second ↔ second ≤ first :=
  Nat.not_lt

theorem not_le_iff {first second : Version} : ¬ first ≤ second ↔ second < first :=
  Nat.not_le

theorem le_trans {first second third : Version} (below : first ≤ second) (above : second ≤ third) :
    first ≤ third :=
  Nat.le_trans below above

theorem le_of_lt {first second : Version} (less : first < second) : first ≤ second :=
  Nat.le_of_lt less

@[simp] theorem majorMinor_majorMinor (version : Version) :
    version.majorMinor.majorMinor = version.majorMinor := rfl

/-- The minor of a version is moved over the integers and then kept within 32 bits. -/
structure MovedBy (version : Version) (offset : Int) (moved : Version) : Prop where
  major : moved.major = version.major
  minor : (moved.minor.toNat : Int) =
    max 0 (min (version.minor.toNat + offset) (UInt32.size - 1))
  patch : moved.patch = 0

theorem MovedBy.unique {version moved other : Version} {offset : Int}
    (here : version.MovedBy offset moved) (there : version.MovedBy offset other) :
    moved = other := by
  have minor : moved.minor = other.minor := by
    apply UInt32.toNat_inj.1
    exact Int.ofNat.inj (here.minor.trans there.minor.symm)
  calc
    moved = ⟨moved.major, moved.minor, moved.patch⟩ := rfl
    _ = ⟨other.major, other.minor, other.patch⟩ := by
      rw [here.major, there.major, minor, here.patch, there.patch]
    _ = other := rfl

section Offset

variable {version moved : Version} {offset : Int64}

theorem toNat_narrowMinor (minor : Int64) :
    ((narrowMinor minor).toNat : Int) = max 0 (min minor.toInt (UInt32.size - 1)) := by
  have inRange : min minor.toInt.toNat (UInt32.size - 1) < UInt32.size := by
    unfold UInt32.size
    omega
  have exact : (narrowMinor minor).toNat = min minor.toInt.toNat (UInt32.size - 1) :=
    UInt32.toNat_ofNat_of_lt inRange
  rw [exact]
  unfold UInt32.size
  omega

theorem offsetMinor_of_fits (fits : version.Fits offset) :
    ∃ moved, version.offsetMinor offset = .ok moved ∧ version.MovedBy offset.toInt moved := by
  have small := saddOverflow_eq_false_iff.2 fits
  have sum : (version.wideMinor + offset).toInt = version.minor.toNat + offset.toInt := by
    have exact : (version.wideMinor + offset).toInt = version.wideMinor.toInt + offset.toInt :=
      BitVec.toInt_add_of_not_saddOverflow (Bool.eq_false_iff.1 small)
    rw [exact, toInt_wideMinor]
  refine ⟨_, version.offsetMinor_eq_ok small, rfl, ?_, rfl⟩
  rw [toNat_narrowMinor, sum]

theorem offsetMinor_of_not_fits (exceeds : ¬ version.Fits offset) :
    version.offsetMinor offset = .error .overflow := by
  have large := eq_true_of_ne_false (mt saddOverflow_eq_false_iff.1 exceeds)
  rw [offsetMinor, Checked.add_eq_error large]
  rfl

theorem offsetMinor_eq_ok_iff :
    version.offsetMinor offset = .ok moved ↔
      version.Fits offset ∧ version.MovedBy offset.toInt moved := by
  by_cases fits : version.Fits offset
  · obtain ⟨result, computed, movedBy⟩ := offsetMinor_of_fits fits
    rw [computed]
    constructor
    · intro same
      cases same
      exact ⟨fits, movedBy⟩
    · rintro ⟨_, other⟩
      rw [movedBy.unique other]
  · simp [offsetMinor_of_not_fits fits, fits]

theorem shiftMinor_movedBy (version : Version) {offset : Int64}
    (small : offset.toInt < UInt32.size) :
    version.MovedBy offset.toInt (version.shiftMinor offset small) :=
  (offsetMinor_eq_ok_iff.1 (version.offsetMinor_completes small).eq_ok).2

end Offset

end Version

namespace EffectiveVersion

/-- An effective version comes from a built version, and may be set to emulate others. -/
inductive Made : EffectiveVersion → Prop
  | new (binary : Version) : Made (.new binary)
  | withEmulation {effective : EffectiveVersion} (version : Version) (made : Made effective) :
      Made (effective.withEmulation version)

/-- An emulated version has no patch. -/
theorem Made.majorMinor_emulation {effective : EffectiveVersion} (made : effective.Made) :
    effective.emulation.majorMinor = effective.emulation := by
  cases made <;> rfl

/-- The emulated minor is that of the built version, or up to three lower. -/
structure InWindow (effective : EffectiveVersion) : Prop where
  major : effective.emulation.major = effective.binary.major
  notAbove : effective.emulation.minor.toNat ≤ effective.binary.minor.toNat
  notBelow : effective.binary.minor.toNat ≤ effective.emulation.minor.toNat + 3

theorem lowestEmulation_movedBy (effective : EffectiveVersion) :
    effective.highestEmulation.MovedBy (-3 : Int64).toInt effective.lowestEmulation :=
  effective.highestEmulation.shiftMinor_movedBy (by decide)

/-- The lowest minor is not below zero. -/
theorem lowestEmulation_minor (effective : EffectiveVersion) :
    effective.lowestEmulation.minor.toNat = effective.binary.minor.toNat - 3 := by
  have bound := effective.binary.minor.toNat_lt
  have offset : (-3 : Int64).toInt = -3 := by decide
  have minor : effective.highestEmulation.minor = effective.binary.minor := rfl
  have lowered := effective.lowestEmulation_movedBy.minor
  rw [offset, minor] at lowered
  unfold UInt32.size at lowered
  omega

theorem lowestEmulation_major (effective : EffectiveVersion) :
    effective.lowestEmulation.major = effective.binary.major :=
  effective.lowestEmulation_movedBy.major

theorem lowestEmulation_patch (effective : EffectiveVersion) :
    effective.lowestEmulation.patch = 0 :=
  effective.lowestEmulation_movedBy.patch

/-- The only problem of an effective version is that it emulates one out of its range. -/
theorem problem?_cases (effective : EffectiveVersion) (component : String) :
    effective.problem? component = none ∨
    effective.problem? component = some (.emulationOutOfRange component effective.emulation
      effective.lowestEmulation effective.highestEmulation) := by
  simp only [problem?]
  split
  · exact Or.inr rfl
  · exact Or.inl rfl

/-- Exactly the versions in the window are accepted. -/
theorem problem?_eq_none_iff {effective : EffectiveVersion} {component : String}
    (plain : effective.emulation.majorMinor = effective.emulation) :
    effective.problem? component = none ↔ effective.InWindow := by
  have noPatch : effective.emulation.patch.toNat = 0 := by
    rw [← plain]
    rfl
  have highest : effective.highestEmulation < effective.emulation ↔
      effective.binary.major.toNat < effective.emulation.major.toNat ∨
        effective.binary.major.toNat = effective.emulation.major.toNat ∧
          effective.binary.minor.toNat < effective.emulation.minor.toNat := by
    have major : effective.highestEmulation.major = effective.binary.major := rfl
    have minor : effective.highestEmulation.minor = effective.binary.minor := rfl
    rw [Version.lt_iff, major, minor, noPatch]
    omega
  have lowest : effective.emulation < effective.lowestEmulation ↔
      effective.emulation.major.toNat < effective.binary.major.toNat ∨
        effective.emulation.major.toNat = effective.binary.major.toNat ∧
          effective.emulation.minor.toNat + 3 < effective.binary.minor.toNat := by
    rw [Version.lt_iff, lowestEmulation_major, lowestEmulation_minor, lowestEmulation_patch,
      noPatch, UInt32.toNat_zero]
    omega
  have refused : effective.problem? component = none ↔
      ¬ (effective.highestEmulation < effective.emulation ∨
        effective.emulation < effective.lowestEmulation) := by
    simp only [problem?, ite_eq_right_iff, reduceCtorEq, imp_false]
  rw [refused, highest, lowest]
  constructor
  · intro between
    exact ⟨UInt32.toNat_inj.1 (by omega), by omega, by omega⟩
  · intro window
    have major := congrArg UInt32.toNat window.major
    have notAbove := window.notAbove
    have notBelow := window.notBelow
    omega

/-- The version that was built and the one that is emulated decide about the window. -/
theorem InWindow.of_eq {effective other : EffectiveVersion} (window : effective.InWindow)
    (binary : other.binary = effective.binary) (emulation : other.emulation = effective.emulation) :
    other.InWindow where
  major := by rw [binary, emulation, window.major]
  notAbove := by
    rw [binary, emulation]
    exact window.notAbove
  notBelow := by
    rw [binary, emulation]
    exact window.notBelow

/-- A version above the highest one is out of the window. -/
theorem InWindow.not_above {effective : EffectiveVersion} (window : effective.InWindow)
    (plain : effective.emulation.majorMinor = effective.emulation) :
    ¬ effective.highestEmulation < effective.emulation := by
  intro above
  have accepted := (@problem?_eq_none_iff effective "" plain).2 window
  rw [problem?, if_pos (Or.inl above)] at accepted
  cases accepted

end EffectiveVersion

end ResourceApi
