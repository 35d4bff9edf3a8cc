/-
This file defines sums and differences of 64-bit numbers that stop the program where they leave their
range.
-/

namespace ResourceApi

/-- The program stops without an answer. -/
inductive Panic where
  | overflow
  deriving DecidableEq

/-- The computation does not panic. -/
def Completes {Value : Type} (computation : Except Panic Value) : Prop :=
  ∃ value, computation = .ok value

/-- What a computation gives that does not panic. -/
def Completes.value {Value : Type} {computation : Except Panic Value}
    (completes : Completes computation) : Value :=
  match computation, completes with
  | .ok value, _ => value
  | .error _, impossible => absurd impossible nofun

section Value

variable {Value : Type} {computation : Except Panic Value} (completes : Completes computation)

theorem Completes.eq_ok : computation = .ok completes.value := by
  obtain ⟨value, rfl⟩ := completes
  rfl

theorem Completes.value_eq {value : Value} (same : computation = .ok value) :
    completes.value = value :=
  Except.ok.inj (completes.eq_ok.symm.trans same)

end Value

namespace Checked

def add (first second : Int64) : Except Panic Int64 :=
  if BitVec.saddOverflow first.toBitVec second.toBitVec then .error .overflow
  else .ok (first + second)

def sub (first second : Int64) : Except Panic Int64 :=
  if BitVec.ssubOverflow first.toBitVec second.toBitVec then .error .overflow
  else .ok (first - second)

variable {first second : Int64}

theorem add_eq_ok (fits : BitVec.saddOverflow first.toBitVec second.toBitVec = false) :
    add first second = .ok (first + second) := by
  rw [add, fits]
  rfl

theorem sub_eq_ok (fits : BitVec.ssubOverflow first.toBitVec second.toBitVec = false) :
    sub first second = .ok (first - second) := by
  rw [sub, fits]
  rfl

theorem add_eq_error (exceeds : BitVec.saddOverflow first.toBitVec second.toBitVec = true) :
    add first second = .error .overflow := by
  rw [add, exceeds]
  rfl

end Checked

end ResourceApi
