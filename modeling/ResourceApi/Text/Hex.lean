/-
This file reads and writes hexadecimal digits.
-/

namespace ResourceApi.Text

def hexValue (character : Char) : Option Nat :=
  if '0' ≤ character ∧ character ≤ '9' then some (character.toNat - '0'.toNat)
  else if 'a' ≤ character ∧ character ≤ 'f' then some (character.toNat - 'a'.toNat + 10)
  else if 'A' ≤ character ∧ character ≤ 'F' then some (character.toNat - 'A'.toNat + 10)
  else none

/-- The number that the characters write, where each of them is a hexadecimal digit. -/
def hexNumber (characters : List Char) : Option Nat :=
  characters.foldl
    (fun value character => do return 16 * (← value) + (← hexValue character)) (some 0)

def lowerHexDigit (value : Nat) : Char :=
  Char.ofNat (if value < 10 then '0'.toNat + value else 'a'.toNat + (value - 10))

def upperHexDigit (value : Nat) : Char :=
  Char.ofNat (if value < 10 then '0'.toNat + value else 'A'.toNat + (value - 10))

/-- The fewest lower-case hexadecimal digits of a number. -/
def lowerHex (value : Nat) : List Char :=
  Nat.toDigits 16 value

end ResourceApi.Text
