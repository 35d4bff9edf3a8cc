/-
This file follows the arithmetic of versions to the ends of its ranges. Only the offset of a caller can
be too large.
-/

import ResourceApi.Proofs.Version.Mapping

namespace ResourceApi

namespace Version

variable {version other moved below : Version} {offset lower : Int64}

/-- A lower version with a lower offset fits as well. -/
theorem Fits.mono (fits : version.Fits offset) (minor : other.minor ≤ version.minor)
    (notAbove : lower ≤ offset) : other.Fits lower := by
  have lowerMinor := UInt32.le_iff_toNat_le.1 minor
  have lowerOffset := Int64.le_iff_toInt_le.1 notAbove
  unfold Fits at fits ⊢
  omega

/-- A greater minor with a greater offset is not moved to a lower one. -/
theorem MovedBy.le (movedBy : version.MovedBy offset.toInt moved)
    (belowBy : other.MovedBy lower.toInt below) (major : other.major = version.major)
    (minor : other.minor ≤ version.minor) (notAbove : lower ≤ offset) : below ≤ moved := by
  have sameMajor : below.major = moved.major := by
    rw [belowBy.major, movedBy.major, major]
  have lowerMinor := UInt32.le_iff_toNat_le.1 minor
  have lowerOffset := Int64.le_iff_toInt_le.1 notAbove
  have movedMinor := movedBy.minor
  have belowMinor := belowBy.minor
  apply not_lt_iff.1
  rw [Version.lt_iff, sameMajor, belowBy.patch, UInt32.toNat_zero]
  omega

theorem offsetMinor_mono (computed : version.offsetMinor offset = .ok moved)
    (major : other.major = version.major) (minor : other.minor ≤ version.minor)
    (notAbove : lower ≤ offset) : ∃ below, other.offsetMinor lower = .ok below ∧ below ≤ moved := by
  obtain ⟨fits, movedBy⟩ := offsetMinor_eq_ok_iff.1 computed
  obtain ⟨below, lowerComputed, belowBy⟩ := offsetMinor_of_fits (fits.mono minor notAbove)
  exact ⟨below, lowerComputed, movedBy.le belowBy major minor notAbove⟩

end Version

/-- Both sums on the way to a mapped version stay within 64 bits. -/
theorem dependentVersionMapping_computed {anchor version : Version} (highest : Version)
    (same : version.major = anchor.major) :
    ∃ offset moved, Checked.sub version.wideMinor anchor.wideMinor = .ok offset ∧
      highest.majorMinor.offsetMinor offset = .ok moved ∧
      dependentVersionMapping anchor highest version =
        some (if highest < moved then highest else moved) := by
  refine ⟨version.minorsAbove anchor, _, (version.sub_completes anchor).eq_ok,
    (highest.majorMinor.offsetMinor_completes (version.minorsAbove_small anchor)).eq_ok, ?_⟩
  exact (if_neg (not_not_intro same)).trans (apply_ite some _ _ _).symm

/-- A version is moved as over the integers, or the program panics. -/
theorem offset_exact_or_panics (version : Version) (offset : Int64) (effective : EffectiveVersion)
    (anchor highest : Version) :
    (version.Fits offset →
      ∃ moved, version.offsetMinor offset = .ok moved ∧ version.MovedBy offset.toInt moved) ∧
    (¬ version.Fits offset → version.offsetMinor offset = .error .overflow) ∧
    (∀ (moved other : Version) (lower : Int64), version.offsetMinor offset = .ok moved →
      other.major = version.major → other.minor ≤ version.minor → lower ≤ offset →
      ∃ below, other.offsetMinor lower = .ok below ∧ below ≤ moved) ∧
    version.wideMinor.toInt = version.minor.toNat ∧
    version.offsetMinor (-1) = .ok (EffectiveVersion.new version).minCompatibility ∧
    version.offsetMinor (-1) = .ok (effective.withEmulation version).minCompatibility ∧
    effective.highestEmulation.offsetMinor (-3) = .ok effective.lowestEmulation ∧
    (version.major = anchor.major →
      ∃ difference moved, Checked.sub version.wideMinor anchor.wideMinor = .ok difference ∧
        highest.majorMinor.offsetMinor difference = .ok moved ∧
        dependentVersionMapping anchor highest version =
          some (if highest < moved then highest else moved)) := by
  have one : (-1 : Int64).toInt < UInt32.size := by decide
  have three : (-3 : Int64).toInt < UInt32.size := by decide
  refine ⟨Version.offsetMinor_of_fits, Version.offsetMinor_of_not_fits, ?_,
    version.toInt_wideMinor, (version.offsetMinor_completes one).eq_ok,
    (version.offsetMinor_completes one).eq_ok,
    (effective.highestEmulation.offsetMinor_completes three).eq_ok,
    dependentVersionMapping_computed highest⟩
  intro moved other lower computed major minor notAbove
  exact Version.offsetMinor_mono computed major minor notAbove

/-- The largest offset moves no minor but zero. -/
theorem largest_offset_panics :
    (⟨1, 1, 0⟩ : Version).offsetMinor Int64.maxValue = .error .overflow ∧
    (⟨1, 0, 0⟩ : Version).offsetMinor Int64.maxValue = .ok ⟨1, 4294967295, 0⟩ := by
  have exceeds : ¬ (⟨1, 1, 0⟩ : Version).Fits Int64.maxValue := by
    unfold Version.Fits
    decide
  have fits : (⟨1, 0, 0⟩ : Version).Fits Int64.maxValue := by
    unfold Version.Fits
    decide
  obtain ⟨_, panics, _⟩ := offset_exact_or_panics ⟨1, 1, 0⟩ Int64.maxValue default default default
  obtain ⟨moves, _⟩ := offset_exact_or_panics ⟨1, 0, 0⟩ Int64.maxValue default default default
  obtain ⟨moved, computed, movedBy⟩ := moves fits
  have last : (⟨1, 0, 0⟩ : Version).MovedBy Int64.maxValue.toInt ⟨1, 4294967295, 0⟩ :=
    ⟨rfl, by decide, rfl⟩
  rw [movedBy.unique last] at computed
  exact ⟨panics exceeds, computed⟩

end ResourceApi
