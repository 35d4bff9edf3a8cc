/-
This file shows what the mapping onto a dependent component makes of a version: it lowers the
highest version of the dependent as far as the given one lies below the anchor. This shift is
monotone, and no number that is computed on the way is too large for its type.
-/

import ResourceApi.Proofs.Version

namespace ResourceApi

namespace Version

/-- The minor is lowered, but not below zero, and the patch is dropped. -/
def lowered (version : Version) (steps : Nat) : Version where
  major := version.major
  minor := UInt32.ofNat (version.minor.toNat - steps)

theorem lowered_minor (version : Version) (steps : Nat) :
    (version.lowered steps).minor.toNat = version.minor.toNat - steps := by
  have bound := version.minor.toNat_lt
  have inRange : version.minor.toNat - steps < UInt32.size := by
    unfold UInt32.size
    omega
  exact UInt32.toNat_ofNat_of_lt inRange

theorem majorMinor_eq_lowered_iff {version other : Version} {steps : Nat} :
    version.majorMinor = other.lowered steps ↔
      version.major = other.major ∧ version.minor.toNat = other.minor.toNat - steps := by
  rw [← lowered_minor, UInt32.toNat_inj]
  simp [majorMinor, lowered]

theorem lowered_le_lowered (version : Version) {few many : Nat} (fewer : few ≤ many) :
    version.lowered many ≤ version.lowered few := by
  have fewMinor := version.lowered_minor few
  have manyMinor := version.lowered_minor many
  apply not_lt_iff.1
  rw [lt_iff, fewMinor, manyMinor]
  simp only [lowered]
  omega

theorem lowered_le (version : Version) (steps : Nat) : version.lowered steps ≤ version := by
  have minor := version.lowered_minor steps
  apply not_lt_iff.1
  rw [lt_iff, minor]
  simp only [lowered, UInt32.toNat_zero]
  omega

/-- A version lies below its image only if its minor is increased. -/
theorem MovedBy.lt_iff {version moved : Version} {offset : Int}
    (movedBy : version.MovedBy offset moved) :
    version < moved ↔ version.minor.toNat < moved.minor.toNat := by
  rw [Version.lt_iff, movedBy.major, movedBy.patch, UInt32.toNat_zero]
  omega

/-- The minor is moved over the integers and cut off in its own range. -/
theorem shiftMinor_minorsAbove (third version other : Version) :
    third.MovedBy ((version.minor.toNat : Int) - other.minor.toNat)
      (third.shiftMinor (version.minorsAbove other) (version.minorsAbove_small other)) := by
  rw [← toInt_minorsAbove]
  exact third.shiftMinor_movedBy (version.minorsAbove_small other)

/-- So many minors the version lies below the other one, if it has the same major. -/
def minorsBelow (version other : Version) : Nat :=
  if version.major = other.major then other.minor.toNat - version.minor.toNat else 0

/-- Above the anchor nothing is lowered, and elsewhere the patch is dropped. -/
def shifted (highest anchor version : Version) : Version :=
  if anchor.minor.toNat < version.minor.toNat ∧ highest.minor.toNat < UInt32.size - 1 then highest
  else highest.lowered (anchor.minor.toNat - version.minor.toNat)

theorem majorMinor_shifted (highest anchor version : Version) :
    (highest.shifted anchor version).majorMinor =
      highest.lowered (anchor.minor.toNat - version.minor.toNat) := by
  unfold shifted
  split
  next above =>
    apply majorMinor_eq_lowered_iff.2
    exact ⟨rfl, by omega⟩
  next => rfl

theorem shifted_of_le {highest anchor version : Version} (notAbove : version.minor ≤ anchor.minor) :
    highest.shifted anchor version =
      highest.lowered (anchor.minor.toNat - version.minor.toNat) := by
  have notHigher := UInt32.le_iff_toNat_le.1 notAbove
  apply if_neg
  omega

theorem shifted_of_lt {highest anchor version : Version} (above : anchor.minor < version.minor) :
    highest.shifted anchor version =
      if highest.minor.toNat = UInt32.size - 1 then highest.majorMinor else highest := by
  have higher := UInt32.lt_iff_toNat_lt.1 above
  have bound := highest.minor.toNat_lt
  unfold shifted UInt32.size
  split
  next last => rw [if_neg (by omega)]
  next last =>
    rw [if_pos (by omega)]
    apply Eq.symm
    apply majorMinor_eq_lowered_iff.2
    exact ⟨rfl, by omega⟩

/-- The image is never above the highest version. -/
theorem shifted_le (highest anchor version : Version) :
    highest.shifted anchor version ≤ highest := by
  unfold shifted
  split
  · exact Nat.le_refl _
  · exact highest.lowered_le _

theorem shifted_le_shifted (highest anchor : Version) {version higher : Version}
    (below : version.minor.toNat ≤ higher.minor.toNat) :
    highest.shifted anchor version ≤ highest.shifted anchor higher := by
  by_cases above : anchor.minor.toNat < version.minor.toNat ∧
      highest.minor.toNat < UInt32.size - 1
  · have bothAbove : anchor.minor.toNat < higher.minor.toNat ∧
        highest.minor.toNat < UInt32.size - 1 := ⟨by omega, above.2⟩
    rw [shifted, shifted, if_pos above, if_pos bothAbove]
    exact Nat.le_refl _
  · rw [shifted, if_neg above, shifted]
    split
    · exact highest.lowered_le _
    · apply highest.lowered_le_lowered
      omega

end Version

/-- The 64-bit arithmetic and the comparison with the highest version come down to this. -/
theorem dependentVersionMapping_eq (anchor highest version : Version) :
    dependentVersionMapping anchor highest version =
      if version.major = anchor.major then some (highest.shifted anchor version) else none := by
  let moved :=
    highest.majorMinor.shiftMinor (version.minorsAbove anchor) (version.minorsAbove_small anchor)
  have computed : dependentVersionMapping anchor highest version =
      if version.major ≠ anchor.major then none
      else if highest < moved then some highest else some moved := rfl
  by_cases same : version.major = anchor.major
  · have shifted : highest.MovedBy ((version.minor.toNat : Int) - anchor.minor.toNat) moved := by
      obtain ⟨major, minor, patch⟩ := highest.majorMinor.shiftMinor_minorsAbove version anchor
      exact ⟨major, minor, patch⟩
    have grows := shifted.lt_iff
    have image := shifted.minor
    have bound := highest.minor.toNat_lt
    unfold UInt32.size at image
    rw [computed, if_neg (not_not_intro same), if_pos same, Version.shifted, UInt32.size]
    by_cases exceeds : highest < moved
    · have grown := grows.1 exceeds
      have above : anchor.minor.toNat < version.minor.toNat ∧
          highest.minor.toNat < 4294967296 - 1 := by omega
      rw [if_pos exceeds, if_pos above]
    · have notGrown := mt grows.2 exceeds
      have notAbove : ¬ (anchor.minor.toNat < version.minor.toNat ∧
          highest.minor.toNat < 4294967296 - 1) := by omega
      have lowered : moved.majorMinor =
          highest.lowered (anchor.minor.toNat - version.minor.toNat) := by
        apply Version.majorMinor_eq_lowered_iff.2
        exact ⟨shifted.major, by omega⟩
      have plain : moved.majorMinor = moved := by
        rw [Version.majorMinor, ← shifted.patch]
      rw [if_neg exceeds, if_neg notAbove, ← lowered, plain]
  · rw [computed, if_pos same, if_neg same]

theorem dependentVersionMapping_eq_some_iff {anchor highest version mapped : Version} :
    dependentVersionMapping anchor highest version = some mapped ↔
      version.major = anchor.major ∧ highest.shifted anchor version = mapped := by
  simp [dependentVersionMapping_eq]

theorem dependentVersionMapping_of_major_ne {anchor highest version : Version}
    (other : version.major ≠ anchor.major) :
    dependentVersionMapping anchor highest version = none :=
  if_pos other

/-- The image is as far below the highest version as the argument below the anchor. -/
theorem majorMinor_dependentVersionMapping (highest : Version) {anchor version : Version}
    (same : version.major = anchor.major) :
    ∃ mapped, dependentVersionMapping anchor highest version = some mapped ∧
      mapped.majorMinor = highest.lowered (anchor.minor.toNat - version.minor.toNat) :=
  ⟨highest.shifted anchor version, by rw [dependentVersionMapping_eq, if_pos same],
    highest.majorMinor_shifted anchor version⟩

/-- All numbers of 64 bits on the way to an image are exact. -/
structure MapsWithinRange (anchor highest version : Version) : Prop where
  computed : version.major = anchor.major →
    let sum := highest.wideMinor + version.minorsAbove anchor
    let moved : Version :=
      ⟨highest.major, UInt32.ofNat (min sum.toInt.toNat (UInt32.size - 1)), 0⟩
    dependentVersionMapping anchor highest version =
      some (if highest < moved then highest else moved)
  widened : ∀ given : Version, given.wideMinor.toInt = given.minor.toNat
  difference :
    BitVec.ssubOverflow version.wideMinor.toBitVec anchor.wideMinor.toBitVec = false
  sum :
    BitVec.saddOverflow highest.wideMinor.toBitVec (version.minorsAbove anchor).toBitVec = false

theorem mapsWithinRange (anchor highest version : Version) :
    MapsWithinRange anchor highest version where
  computed same := by
    have moved : highest.majorMinor.shiftMinor _ (version.minorsAbove_small anchor) =
        ⟨highest.major, Version.narrowMinor (highest.wideMinor + version.minorsAbove anchor), 0⟩ :=
      highest.majorMinor.shiftMinor_eq _
    rw [dependentVersionMapping, if_neg (not_not_intro same), moved]
    exact (apply_ite some _ _ _).symm
  widened := Version.toInt_wideMinor
  difference := version.wideMinor_sub_fits anchor
  sum := highest.wideMinor_add_fits (version.minorsAbove_small anchor)

/-- The mapping is a monotone shift between zero and the highest version. -/
theorem mapping_is_clamped_shift (anchor highest version : Version) :
    (dependentVersionMapping anchor highest version = none ↔ version.major ≠ anchor.major) ∧
    (∀ mapped, dependentVersionMapping anchor highest version = some mapped →
      mapped ≤ highest ∧ mapped.major = highest.major ∧
      (version.minor ≤ anchor.minor →
        mapped.patch = 0 ∧ (mapped.minor.toNat : Int) =
          max 0 (highest.minor.toNat - (anchor.minor.toNat - version.minor.toNat))) ∧
      (anchor.minor < version.minor →
        mapped =
          if highest.minor.toNat = UInt32.size - 1 then highest.majorMinor else highest)) ∧
    (∀ higher mapped mappedHigher, version ≤ higher →
      dependentVersionMapping anchor highest version = some mapped →
      dependentVersionMapping anchor highest higher = some mappedHigher →
      mapped ≤ mappedHigher) ∧
    MapsWithinRange anchor highest version := by
  refine ⟨by simp [dependentVersionMapping_eq], ?_, ?_, mapsWithinRange anchor highest version⟩
  · intro mapped found
    obtain ⟨_, rfl⟩ := dependentVersionMapping_eq_some_iff.1 found
    have major := (Version.majorMinor_eq_lowered_iff.1
      (highest.majorMinor_shifted anchor version)).1
    refine ⟨highest.shifted_le anchor version, major, ?_, Version.shifted_of_lt⟩
    intro notAbove
    have notHigher := UInt32.le_iff_toNat_le.1 notAbove
    rw [Version.shifted_of_le notAbove, Version.lowered_minor]
    exact ⟨rfl, by omega⟩
  · intro higher mapped mappedHigher below found foundHigher
    obtain ⟨major, rfl⟩ := dependentVersionMapping_eq_some_iff.1 found
    obtain ⟨sameMajor, rfl⟩ := dependentVersionMapping_eq_some_iff.1 foundHigher
    apply highest.shifted_le_shifted anchor
    -- Of two versions with one major, the lower one has no higher minor.
    have notAbove := Version.not_lt_iff.2 below
    rw [Version.lt_iff, major, sameMajor] at notAbove
    omega

/-- Without a higher minor, the patch is lost. -/
theorem last_minor_loses_patch :
    dependentVersionMapping ⟨1, 2, 0⟩ ⟨1, 4294967295, 7⟩ ⟨1, 3, 0⟩ =
      some ⟨1, 4294967295, 0⟩ := by
  obtain ⟨unmapped, image, _⟩ := mapping_is_clamped_shift ⟨1, 2, 0⟩ ⟨1, 4294967295, 7⟩ ⟨1, 3, 0⟩
  obtain ⟨mapped, found⟩ := Option.ne_none_iff_exists'.1 fun absent => unmapped.1 absent rfl
  obtain ⟨_, _, _, above⟩ := image mapped found
  rw [found, above (by decide)]
  rfl

/-- A dependent is lowered as many minors as the given version lies below the anchor. -/
theorem emulation_dependentVersionMapping (anchor highest version : Version) :
    (dependentVersionMapping anchor highest version).elim highest.majorMinor Version.majorMinor =
      highest.lowered (version.minorsBelow anchor) := by
  unfold Version.minorsBelow
  by_cases same : version.major = anchor.major
  · obtain ⟨mapped, image, lowered⟩ := majorMinor_dependentVersionMapping highest same
    rw [image, if_pos same]
    exact lowered
  · rw [dependentVersionMapping_of_major_ne same, if_neg same]
    exact Version.majorMinor_eq_lowered_iff.2 ⟨rfl, rfl⟩

namespace EffectiveVersion

/-- A component that is lowered by three minors or less stays in its window. -/
theorem inWindow_of_lowered {effective : EffectiveVersion} {steps : Nat} (few : steps ≤ 3)
    (emulates : effective.emulation = effective.binary.lowered steps) : effective.InWindow := by
  have minor := effective.binary.lowered_minor steps
  rw [← emulates] at minor
  exact ⟨by rw [emulates, Version.lowered], by omega, by omega⟩

theorem inWindow_new (binary : Version) : (EffectiveVersion.new binary).InWindow :=
  inWindow_of_lowered (Nat.zero_le 3) (Version.majorMinor_eq_lowered_iff.2 ⟨rfl, rfl⟩)

end EffectiveVersion

end ResourceApi
