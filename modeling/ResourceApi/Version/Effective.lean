/-
This file defines the versions in force for one component: the one it was built at, the one it
emulates, and the oldest one it is compatible with.
-/

import ResourceApi.Version

namespace ResourceApi

structure EffectiveVersion where
  binary : Version
  emulation : Version
  minCompatibility : Version
  deriving DecidableEq, Inhabited

namespace EffectiveVersion

/-- A component emulates the version that it was built at. -/
def new (binary : Version) : EffectiveVersion where
  binary := binary
  emulation := binary.majorMinor
  minCompatibility := binary.shiftMinor (-1) (by decide)

def withEmulation (effective : EffectiveVersion) (emulation : Version) : EffectiveVersion where
  binary := effective.binary
  emulation := emulation.majorMinor
  minCompatibility := emulation.shiftMinor (-1) (by decide)

def highestEmulation (effective : EffectiveVersion) : Version :=
  effective.binary.majorMinor

/-- The oldest version that can be emulated lies three minors below the newest. -/
def lowestEmulation (effective : EffectiveVersion) : Version :=
  effective.highestEmulation.shiftMinor (-3) (by decide)

def problem? (effective : EffectiveVersion) (component : String) : Option VersionError :=
  let highest := effective.highestEmulation
  let lowest := effective.lowestEmulation
  if highest < effective.emulation ∨ effective.emulation < lowest then
    some (.emulationOutOfRange component effective.emulation lowest highest)
  else none

end EffectiveVersion

/-- A mapping gives the version that a dependent component emulates, where it has one to give. -/
abbrev VersionMapping := Version → Option Version

/-- Every minor below the anchor maps to one minor below the highest version. -/
def dependentVersionMapping (anchor highest : Version) : VersionMapping := fun version =>
  if version.major ≠ anchor.major then none
  else
    let mapped :=
      highest.majorMinor.shiftMinor (version.minorsAbove anchor) (version.minorsAbove_small anchor)
    if highest < mapped then some highest else some mapped

end ResourceApi
