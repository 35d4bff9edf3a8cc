/-
This file defines versions of components, how they are written, and how far a version lies from
another one.
-/

import ResourceApi.Checked
import ResourceApi.Text.Blank
import ResourceApi.Text.Decimal
import ResourceApi.Text.Split

namespace ResourceApi

structure Version where
  major : UInt32
  minor : UInt32
  patch : UInt32 := 0
  deriving DecidableEq, Inhabited

inductive VersionError where
  | parse (written : String)
  | unknownComponent (component : String)
  | duplicateComponent (component : String)
  | selfMapping (component : String)
  | duplicateMapping (source target : String)
  | conflictingRequest (source target : String)
  | emulationOutOfRange (component : String) (requested lowest highest : Version)
  | unknownFeature (component feature : String)
  | lockedFeature (component feature : String) (default : Bool)
  deriving DecidableEq

namespace Version

/-- Every part is below 2^32, so this number orders versions by major, then minor, then patch. -/
def rank (version : Version) : Nat :=
  (version.major.toNat * UInt32.size + version.minor.toNat) * UInt32.size + version.patch.toNat

instance : LE Version := ⟨fun first second => first.rank ≤ second.rank⟩

instance : LT Version := ⟨fun first second => first.rank < second.rank⟩

instance (first second : Version) : Decidable (first ≤ second) :=
  inferInstanceAs (Decidable (first.rank ≤ second.rank))

instance (first second : Version) : Decidable (first < second) :=
  inferInstanceAs (Decidable (first.rank < second.rank))

def majorMinor (version : Version) : Version :=
  { version with patch := 0 }

def wideMinor (version : Version) : Int64 :=
  Int64.ofNat version.minor.toNat

@[simp] theorem toInt_wideMinor (version : Version) :
    version.wideMinor.toInt = version.minor.toNat := by
  have bound := version.minor.toNat_lt
  exact Int64.toInt_ofNat_of_lt (by omega)

/-- Minors out of the range of 32 bits are replaced by the nearest in it. -/
def narrowMinor (minor : Int64) : UInt32 :=
  UInt32.ofNat (min minor.toInt.toNat (UInt32.size - 1))

/-- The minor is moved in 64-bit arithmetic, and the patch is dropped. -/
def offsetMinor (version : Version) (offset : Int64) : Except Panic Version := do
  let moved ← Checked.add version.wideMinor offset
  return { major := version.major, minor := narrowMinor moved }

theorem offsetMinor_eq_ok (version : Version) {offset : Int64}
    (fits : BitVec.saddOverflow version.wideMinor.toBitVec offset.toBitVec = false) :
    version.offsetMinor offset =
      .ok ⟨version.major, narrowMinor (version.wideMinor + offset), 0⟩ := by
  rw [offsetMinor, Checked.add_eq_ok fits]
  rfl

/-- The minor and the offset together do not exceed 64 bits. They are never too small. -/
def Fits (version : Version) (offset : Int64) : Prop :=
  version.minor.toNat + offset.toInt ≤ Int64.maxValue.toInt

theorem saddOverflow_eq_false_iff {version : Version} {offset : Int64} :
    BitVec.saddOverflow version.wideMinor.toBitVec offset.toBitVec = false ↔
      version.Fits offset := by
  have lowest : -2 ^ 63 ≤ offset.toBitVec.toInt := offset.le_toInt
  have same : offset.toInt = offset.toBitVec.toInt := rfl
  have wide : version.wideMinor.toBitVec.toInt = version.minor.toNat := version.toInt_wideMinor
  have largest : Int64.maxValue.toInt = 9223372036854775807 := Int64.toInt_maxValue
  simp only [BitVec.saddOverflow, wide, Fits, same, largest, Bool.or_eq_false_iff,
    decide_eq_false_iff_not]
  omega

section Small

variable (version : Version) {offset : Int64} (small : offset.toInt < UInt32.size)

include small

theorem fits_of_small : version.Fits offset := by
  have bound := version.minor.toNat_lt
  have largest := Int64.toInt_maxValue
  unfold UInt32.size at small
  unfold Fits
  omega

theorem wideMinor_add_fits :
    BitVec.saddOverflow version.wideMinor.toBitVec offset.toBitVec = false :=
  saddOverflow_eq_false_iff.2 (version.fits_of_small small)

theorem offsetMinor_completes : Completes (version.offsetMinor offset) :=
  ⟨_, version.offsetMinor_eq_ok (version.wideMinor_add_fits small)⟩

end Small

/-- An offset that is not above all minors moves every version. -/
def shiftMinor (version : Version) (offset : Int64) (small : offset.toInt < UInt32.size) : Version :=
  (version.offsetMinor_completes small).value

theorem shiftMinor_eq (version : Version) {offset : Int64} (small : offset.toInt < UInt32.size) :
    version.shiftMinor offset small =
      ⟨version.major, narrowMinor (version.wideMinor + offset), 0⟩ :=
  (version.offsetMinor_completes small).value_eq
    (version.offsetMinor_eq_ok (version.wideMinor_add_fits small))

section Difference

variable (version other : Version)

/-- Minors are words of 32 bits, so their difference fits into 64 bits. -/
theorem wideMinor_sub_fits :
    BitVec.ssubOverflow version.wideMinor.toBitVec other.wideMinor.toBitVec = false := by
  have bound := version.minor.toNat_lt
  have otherBound := other.minor.toNat_lt
  have wide : version.wideMinor.toBitVec.toInt = version.minor.toNat := version.toInt_wideMinor
  have otherWide : other.wideMinor.toBitVec.toInt = other.minor.toNat := other.toInt_wideMinor
  simp only [BitVec.ssubOverflow, wide, otherWide, Bool.or_eq_false_iff, decide_eq_false_iff_not]
  omega

theorem sub_completes : Completes (Checked.sub version.wideMinor other.wideMinor) :=
  ⟨_, Checked.sub_eq_ok (version.wideMinor_sub_fits other)⟩

/-- So many minors the version lies above the other one, below zero if it lies below. -/
def minorsAbove : Int64 :=
  (version.sub_completes other).value

theorem minorsAbove_eq : version.minorsAbove other = version.wideMinor - other.wideMinor :=
  (version.sub_completes other).value_eq (Checked.sub_eq_ok (version.wideMinor_sub_fits other))

theorem toInt_minorsAbove :
    (version.minorsAbove other).toInt = (version.minor.toNat : Int) - other.minor.toNat := by
  have fits := version.wideMinor_sub_fits other
  have difference : (version.wideMinor - other.wideMinor).toInt =
      version.wideMinor.toInt - other.wideMinor.toInt :=
    BitVec.toInt_sub_of_not_ssubOverflow (Bool.eq_false_iff.1 fits)
  rw [minorsAbove_eq, difference, toInt_wideMinor, toInt_wideMinor]

theorem minorsAbove_small : (version.minorsAbove other).toInt < UInt32.size := by
  have bound := version.minor.toNat_lt
  rw [toInt_minorsAbove, UInt32.size]
  omega

end Difference

/-- The patch is left out where it is zero. -/
def display (version : Version) : String :=
  let majorMinor := Text.writeNat version.major.toNat ++ "." ++ Text.writeNat version.minor.toNat
  if version.patch = 0 then majorMinor
  else majorMinor ++ "." ++ Text.writeNat version.patch.toNat

def readParts : List (List Char) → Option (List UInt32)
  | [] => some []
  | part :: rest => do return (← Text.readWord part) :: (← readParts rest)

/-- Two or three numbers are separated by dots, maybe behind a v and in white space. -/
def parse (written : String) : Except VersionError Version :=
  match readParts (Text.split '.' (Text.dropLead 'v' (Text.trim written.toList))) with
  | some [major, minor] => .ok { major, minor }
  | some [major, minor, patch] => .ok { major, minor, patch }
  | _ => .error (.parse written)

end Version

def VersionError.message : VersionError → String
  | .parse written => "illegal version string \"" ++ written ++ "\""
  | .unknownComponent component => "component \"" ++ component ++ "\" is not registered"
  | .duplicateComponent component => "component \"" ++ component ++ "\" is already registered"
  | .selfMapping component =>
      "component \"" ++ component ++ "\" cannot map its emulation version onto itself"
  | .duplicateMapping source target =>
      "emulation version of \"" ++ target ++ "\" is already mapped from \"" ++ source ++ "\""
  | .conflictingRequest source target =>
      "emulation version of \"" ++ target ++ "\" is requested explicitly and also mapped from \""
        ++ source ++ "\""
  | .emulationOutOfRange component requested lowest highest =>
      "emulation version " ++ requested.display ++ " of \"" ++ component ++ "\" is not within ["
        ++ lowest.display ++ ", " ++ highest.display ++ "]"
  | .unknownFeature component feature =>
      "feature \"" ++ feature ++ "\" is unknown to \"" ++ component ++ "\""
  | .lockedFeature component feature default =>
      "feature \"" ++ feature ++ "\" of \"" ++ component ++ "\" is locked to "
        ++ (if default then "true" else "false")

end ResourceApi
