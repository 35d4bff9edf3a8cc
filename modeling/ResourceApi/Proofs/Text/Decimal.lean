/-
This file shows that decimal texts are read as the numbers that they were written for, so they tell
numbers apart, and which digits are read as words.
-/

import ResourceApi.Text.Decimal

namespace ResourceApi.Text

theorem writeNat_toList (value : Nat) : (writeNat value).toList = Nat.toDigits 10 value := by
  rw [writeNat, String.toList_ofList]

/-- Different numbers have different texts. -/
theorem writeNat_injective {first second : Nat} (same : writeNat first = writeNat second) :
    first = second := by
  have digits : Nat.toDigits 10 first = Nat.toDigits 10 second := by
    rw [← writeNat_toList, ← writeNat_toList, same]
  calc
    first = Nat.ofDigitChars 10 (Nat.toDigits 10 first) 0 := Nat.ofDigitChars_ten_toDigits.symm
    _ = Nat.ofDigitChars 10 (Nat.toDigits 10 second) 0 := by rw [digits]
    _ = second := Nat.ofDigitChars_ten_toDigits

theorem digitsValue_toDigits (value : Nat) : digitsValue (Nat.toDigits 10 value) = value :=
  Nat.ofDigitChars_ten_toDigits

theorem isDigit_of_mem_toDigits {value : Nat} {character : Char}
    (inside : character ∈ Nat.toDigits 10 value) : isDigit character = true := by
  have digit := Nat.isDigit_of_mem_toDigits (by decide) (by decide) inside
  simpa [Char.isDigit, isDigit, Char.le_def, UInt32.le_iff_toNat_le] using digit

/-- Digits are read as a word unless their number is too large for one. -/
theorem readWord_of_digits {digits : List Char} (present : digits ≠ [])
    (all : digits.all isDigit = true) :
    readWord digits =
      if digitsValue digits < UInt32.size then some (UInt32.ofNat (digitsValue digits))
      else none := by
  have noPlus : readWord.dropPlus digits = digits := by
    cases digits with
    | nil => rfl
    | cons first rest =>
        have digit := List.all_eq_true.1 all first List.mem_cons_self
        have notPlus : first ≠ '+' := by
          rintro rfl
          exact absurd digit (by decide)
        simp [readWord.dropPlus, notPlus]
  rw [readWord, noPlus, readDigits, if_pos ⟨present, all⟩]

end ResourceApi.Text
