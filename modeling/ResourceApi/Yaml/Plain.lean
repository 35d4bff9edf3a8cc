/-
This file says what plain scalars stand for: null, a truth value, a number, or themselves.
-/

import ResourceApi.Text.Decimal
import ResourceApi.Text.Hex
import ResourceApi.Text.Split

namespace ResourceApi.Yaml

def isNull (content : String) : Bool :=
  ["null", "Null", "NULL", "~"].contains content

def truth? (content : String) : Option Bool :=
  if ["true", "True", "TRUE"].contains content then some true
  else if ["false", "False", "FALSE"].contains content then some false
  else none

def hasSign (characters : List Char) : Bool :=
  characters.head? = some '+' || characters.head? = some '-'

def dropSign (characters : List Char) : List Char :=
  if hasSign characters then characters.drop 1 else characters

/-- A zero with further digits behind it is no number. -/
def isPadded (characters : List Char) : Bool :=
  let digits := dropSign characters
  1 < digits.length && digits.head? = some '0' && digits.all Text.isDigit

/-- The number of a text in base eight, two or sixteen. -/
def basedNumber? (base : Nat) (digits : List Char) : Option Nat := do
  if digits = [] then none
  else
    digits.foldlM (fun value digit => do
      let next ← Text.hexValue digit
      if next < base then some (base * value + next) else none) 0

/-- A letter after a zero names the base. -/
def wholeValue? (characters : List Char) : Option Nat :=
  match characters with
  | '0' :: 'x' :: digits => basedNumber? 16 digits
  | '0' :: 'o' :: digits => basedNumber? 8 digits
  | '0' :: 'b' :: digits => basedNumber? 2 digits
  | digits => Text.readDigits digits

/-- Whole numbers have up to 128 bits. -/
def isWhole (characters : List Char) : Bool :=
  !isPadded characters &&
    match wholeValue? (dropSign characters) with
    | none => false
    | some value =>
        if characters.head? = some '-' then value ≤ Nat.pow 2 127 else value < Nat.pow 2 128

/-- Digits with at most one point in them, and at least one digit. -/
def mantissa? (characters : List Char) : Option (List Char × List Char) :=
  let (digits, fraction) := (Text.splitOnce ['.'] characters).getD (characters, [])
  if digits ++ fraction ≠ [] ∧ (digits ++ fraction).all Text.isDigit then some (digits, fraction)
  else none

/-- The digits of an exponent may have a sign in front. -/
def exponent? (characters : List Char) : Option Int :=
  match characters with
  | '-' :: digits => (Text.readDigits digits).map fun value => -(value : Int)
  | '+' :: digits => (Text.readDigits digits).map Int.ofNat
  | digits => (Text.readDigits digits).map Int.ofNat

/-- A real number is not too large for 64 bits. -/
def isReal (characters : List Char) : Bool :=
  let unsigned := dropSign characters
  let lower := unsigned.map fun character => if character = 'E' then 'e' else character
  let (written, shift) := match Text.splitOnce ['e'] lower with
    | none => (lower, some 0)
    | some (written, exponent) => (written, exponent? exponent)
  match mantissa? written, shift with
  | some (digits, fraction), some shift => Text.fitsReal digits fraction shift
  | _, _ => false

/-- Infinity may have a sign, and what is not a number has none. -/
def isSpecialReal (content : String) : Bool :=
  [".inf", ".Inf", ".INF", "+.inf", "+.Inf", "+.INF", "-.inf", "-.Inf", "-.INF", ".nan", ".NaN",
    ".NAN"].contains content

def isNumber (content : String) : Bool :=
  let characters := content.toList
  isWhole characters || (!isPadded characters && isReal characters) || isSpecialReal content

/-- A plain scalar with this content could be read as something else than text. -/
def isAmbiguous (content : String) : Bool :=
  content = "" || isNull content || (truth? content).isSome || isNumber content ||
    isPadded content.toList

end ResourceApi.Yaml
