/-
This file gives an event that keeps its listeners in a list, in the order in which they came, and shows
that it treats them as events do.
-/

import ResourceApi.Proofs.StopSignal.Turns

namespace ResourceApi.StopSignal

inductive Slot where
  | vacant
  | waiting
  | marked
  deriving DecidableEq

namespace Slot

def mark : Slot → Slot
  | vacant => vacant
  | _ => marked

/-- A slot stays as it is, or a listener comes, or the listener is marked. -/
inductive Upto : Slot → Slot → Prop
  | same (slot : Slot) : Upto slot slot
  | enter : Upto vacant waiting
  | mark : Upto waiting marked

theorem upto_mark (slot : Slot) : slot.Upto slot.mark := by
  cases slot with
  | waiting => exact .mark
  | _ => exact .same _

theorem Upto.occupied {before after : Slot} (upto : before.Upto after)
    (occupied : (before != vacant) = true) : (after != vacant) = true := by
  cases upto with
  | same => exact occupied
  | _ => rfl

theorem Upto.stays_marked {before after : Slot} (upto : before.Upto after)
    (isMarked : (before == marked) = true) : (after == marked) = true := by
  cases upto with
  | same => exact isMarked
  | enter => cases isMarked
  | mark => rfl

theorem mark_of_occupied {slot : Slot} (occupied : (slot != vacant) = true) :
    (slot.mark == marked) = true := by
  cases slot with
  | vacant => cases occupied
  | _ => rfl

end Slot

namespace Slots

open Slot

/-- Behind the last slot there is no listener. -/
def slotAt (slots : List Slot) (ticket : Nat) : Slot :=
  slots[ticket]?.getD vacant

def vacate (slots : List Slot) (ticket : Nat) : List Slot :=
  slots.set ticket vacant

/-- The first listener that still waits is marked. -/
def passOn : List Slot → List Slot
  | [] => []
  | waiting :: slots => marked :: slots
  | slot :: slots => slot :: passOn slots

/-- A mark that was not used is passed on, unless another listener has one. -/
def drop (slots : List Slot) (ticket : Nat) : List Slot :=
  let others := vacate slots ticket
  if slotAt slots ticket = marked ∧ marked ∉ others then passOn others else others

theorem slotAt_length (slots : List Slot) : slotAt slots slots.length = vacant := by
  simp [slotAt]

theorem slotAt_append_length (slots : List Slot) (slot : Slot) :
    slotAt (slots ++ [slot]) slots.length = slot := by
  simp [slotAt]

theorem upto_append (slots : List Slot) (ticket : Nat) :
    (slotAt slots ticket).Upto (slotAt (slots ++ [waiting]) ticket) := by
  induction slots generalizing ticket with
  | nil =>
      cases ticket with
      | zero => exact .enter
      | succ ticket => exact .same _
  | cons slot slots inductionHypothesis =>
      cases ticket with
      | zero => exact .same _
      | succ ticket => exact inductionHypothesis ticket

theorem slotAt_map_mark (slots : List Slot) (ticket : Nat) :
    slotAt (slots.map mark) ticket = (slotAt slots ticket).mark := by
  rw [slotAt, slotAt, List.getElem?_map]
  cases slots[ticket]? <;> rfl

theorem slotAt_vacate_of_ne (slots : List Slot) {ticket other : Nat} (different : other ≠ ticket) :
    slotAt (vacate slots ticket) other = slotAt slots other := by
  rw [slotAt, vacate, List.getElem?_set_ne different.symm, slotAt]

theorem upto_passOn (slots : List Slot) (ticket : Nat) :
    (slotAt slots ticket).Upto (slotAt (passOn slots) ticket) := by
  induction slots generalizing ticket with
  | nil => exact .same _
  | cons slot slots inductionHypothesis =>
      cases slot with
      | waiting =>
          cases ticket with
          | zero => exact .mark
          | succ ticket => exact .same _
      | _ =>
          cases ticket with
          | zero => exact .same _
          | succ ticket => exact inductionHypothesis ticket

theorem upto_drop (slots : List Slot) {ticket other : Nat} (different : other ≠ ticket) :
    (slotAt slots other).Upto (slotAt (drop slots ticket) other) := by
  rw [← slotAt_vacate_of_ne slots different, drop]
  split
  · exact upto_passOn _ other
  · exact .same _

/-- A ticket is the place of a listener. -/
def source : EventSource (List Slot) Nat where
  new := []
  listen slots := (slots.length, slots ++ [waiting])
  notifyAll slots := slots.map mark
  wake := vacate
  drop := drop
  isRegistered slots ticket := slotAt slots ticket != vacant
  isMarked slots ticket := slotAt slots ticket == marked

theorem keeps_of_upto {before after : List Slot} {ticket : Nat}
    (upto : (slotAt before ticket).Upto (slotAt after ticket)) :
    source.Keeps before after ticket :=
  ⟨upto.occupied, upto.stays_marked⟩

theorem source_lawful : source.Lawful where
  fresh slots := bne_eq_false_iff_eq.2 (slotAt_length slots)
  registers slots := by
    change (slotAt (slots ++ [waiting]) slots.length != vacant) = true
    rw [slotAt_append_length]
    rfl
  marks slots ticket registered := by
    change (slotAt (slots.map mark) ticket == marked) = true
    rw [slotAt_map_mark]
    exact mark_of_occupied registered
  listen_keeps slots ticket := keeps_of_upto (upto_append slots ticket)
  notifyAll_keeps slots ticket :=
    keeps_of_upto (slotAt_map_mark slots ticket ▸ upto_mark _)
  wake_keeps slots _ _ different :=
    keeps_of_upto (slotAt_vacate_of_ne slots different ▸ .same _)
  drop_keeps slots _ _ different := keeps_of_upto (upto_drop slots different)

end Slots

end ResourceApi.StopSignal
