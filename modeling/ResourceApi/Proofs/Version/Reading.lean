/-
This file says how plain texts are read as versions: texts that hold nothing but digits, the dots
between them and a letter v in front.
-/

import ResourceApi.Proofs.Text.Blank
import ResourceApi.Proofs.Text.Decimal
import ResourceApi.Proofs.Text.Split
import ResourceApi.Version

namespace ResourceApi

theorem Text.isBlank_of_isDigit {character : Char} (digit : isDigit character = true) :
    isBlank character = false := by
  simp only [isDigit, Bool.and_eq_true, decide_eq_true_eq] at digit
  have lowest : 48 ≤ character.toNat := digit.1
  have highest : character.toNat ≤ 57 := digit.2
  simp only [isBlank, Bool.or_eq_false_iff, Bool.and_eq_false_iff, decide_eq_false_iff_not,
    beq_eq_false_iff_ne]
  omega

namespace Version

/-- The parts of a text between its dots. A letter v in front is no part. -/
def parts (written : String) : List (List Char) :=
  Text.split '.' (Text.dropLead 'v' written.toList)

/-- The numbers that the parts write, however large they are. -/
def numbers (written : String) : List Nat :=
  (parts written).map Text.digitsValue

/-- This version has the numbers for its parts. -/
def ofNumbers : List Nat → Version
  | [major, minor] => { major := UInt32.ofNat major, minor := UInt32.ofNat minor }
  | [major, minor, patch] =>
      { major := UInt32.ofNat major, minor := UInt32.ofNat minor, patch := UInt32.ofNat patch }
  | _ => default

/-- Every part of a plain text is one or more digits. -/
def Plain (written : String) : Prop :=
  ∀ part ∈ parts written, part ≠ [] ∧ part.all Text.isDigit = true

theorem Plain.solid {written : String} (plain : Plain written) {character : Char}
    (inside : character ∈ written.toList) : Text.isBlank character = false := by
  have lead : character = 'v' ∨ character ∈ Text.dropLead 'v' written.toList := by
    cases letters : written.toList with
    | nil => rw [letters] at inside; cases inside
    | cons first rest =>
        rw [letters] at inside
        rw [Text.dropLead]
        split
        next same => exact (List.mem_cons.1 inside).imp_left (·.trans same)
        · exact Or.inr inside
  rcases lead with rfl | behind
  · decide
  · rcases @Text.mem_split_of_mem '.' _ _ behind with rfl | ⟨part, listed, found⟩
    · decide
    · exact Text.isBlank_of_isDigit (List.all_eq_true.1 (plain part listed).2 character found)

/-- Words are read up to the first number that is too large. -/
theorem readParts_of_digits {parts : List (List Char)}
    (digits : ∀ part ∈ parts, part ≠ [] ∧ part.all Text.isDigit = true) :
    readParts parts =
      if ∀ number ∈ parts.map Text.digitsValue, number < UInt32.size then
        some ((parts.map Text.digitsValue).map UInt32.ofNat)
      else none := by
  induction parts with
  | nil => rfl
  | cons part rest inductionHypothesis =>
      obtain ⟨here, behind⟩ := List.forall_mem_cons.1 digits
      rw [readParts, Text.readWord_of_digits here.1 here.2, inductionHypothesis behind]
      simp only [List.map_cons, List.forall_mem_cons]
      by_cases fits : Text.digitsValue part < UInt32.size
      · simp only [fits, true_and, if_true]
        by_cases others : ∀ number ∈ rest.map Text.digitsValue, number < UInt32.size
        · rw [if_pos others, if_pos others]
          rfl
        · rw [if_neg others, if_neg others]
          rfl
      · simp only [fits, false_and, if_false]
        rfl

/-- A plain text of two or three parts is read unless a number is too large. -/
theorem Plain.parse_eq {written : String} (plain : Plain written)
    (two : (parts written).length = 2 ∨ (parts written).length = 3) :
    parse written =
      if ∀ number ∈ numbers written, number < UInt32.size then .ok (ofNumbers (numbers written))
      else .error (.parse written) := by
  have untrimmed : Text.trim written.toList = written.toList :=
    Text.trim_eq_self (Text.trimmed_of_all fun _ => plain.solid)
  have read := readParts_of_digits plain
  unfold parts at read two
  unfold numbers parts
  rw [parse, untrimmed, read]
  generalize (Text.split '.' (Text.dropLead 'v' written.toList)) = pieces at two ⊢
  by_cases fits : ∀ number ∈ pieces.map Text.digitsValue, number < UInt32.size
  · rw [if_pos fits, if_pos fits]
    match pieces, two with
    | [major, minor], _ => rfl
    | [major, minor, patch], _ => rfl
  · rw [if_neg fits, if_neg fits]

end Version

end ResourceApi
