/-
This file reads unsigned decimal numbers and writes whole ones.
-/

namespace ResourceApi.Text

def isDigit (character : Char) : Bool :=
  '0' ≤ character && character ≤ '9'

def digitValue (character : Char) : Nat :=
  character.toNat - '0'.toNat

/-- The number that the digits write, most significant digit first. -/
def digitsValue (digits : List Char) : Nat :=
  digits.foldl (fun value digit => 10 * value + digitValue digit) 0

/-- One or more digits and nothing else. Leading zeros are accepted. -/
def readDigits (characters : List Char) : Option Nat :=
  if characters ≠ [] ∧ characters.all isDigit then some (digitsValue characters) else none

/-- A number below 2^32, which may begin with one plus sign. -/
def readWord (characters : List Char) : Option UInt32 :=
  match readDigits (dropPlus characters) with
  | some value => if value < UInt32.size then some (UInt32.ofNat value) else none
  | none => none
where
  dropPlus : List Char → List Char
    | '+' :: rest => rest
    | rest => rest

/-- From here on a number is too large for a real number of 64 bits. -/
def realLimit : Nat := Nat.pow 2 1024 - Nat.pow 2 970

/-- The limit has 309 digits, so only numbers of as many are compared. -/
def fitsReal (digits fraction : List Char) (exponent : Int) : Bool :=
  let significant := (digits ++ fraction).dropWhile (· = '0')
  let shift := exponent - fraction.length
  let size := significant.length + shift
  if significant = [] ∨ size < 309 then true
  else if 309 < size then false
  else if 0 ≤ shift then digitsValue significant * Nat.pow 10 shift.toNat < realLimit
  else digitsValue significant < realLimit * Nat.pow 10 (-shift).toNat

def writeNat (value : Nat) : String :=
  String.ofList (Nat.toDigits 10 value)

def writeInt : Int → String
  | .ofNat value => writeNat value
  | .negSucc value => "-" ++ writeNat (value + 1)

end ResourceApi.Text
