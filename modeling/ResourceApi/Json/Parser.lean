/-
This file reads JSON texts. A text is one value with nothing but white space around it.
-/

import ResourceApi.Json
import ResourceApi.Text.Decimal
import ResourceApi.Text.Hex

namespace ResourceApi.Json

def skipBlanks (input : List Char) : List Char :=
  input.dropWhile fun character =>
    character = ' ' || character = '\t' || character = '\n' || character = '\r'

/-- The character that stands for an escape of two characters. -/
def escapedMeaning (character : Char) : Option Char :=
  if character = '"' then some '"'
  else if character = '\\' then some '\\'
  else if character = '/' then some '/'
  else if character = 'b' then some (Char.ofNat 8)
  else if character = 'f' then some (Char.ofNat 12)
  else if character = 'n' then some '\n'
  else if character = 'r' then some '\r'
  else if character = 't' then some '\t'
  else none

/-- Two units of sixteen bits that together number one character above 0xFFFF. -/
def joinedUnits (high low : Nat) : Option Char :=
  if 0xD800 ≤ high ∧ high < 0xDC00 ∧ 0xDC00 ≤ low ∧ low < 0xE000 then
    some (Char.ofNat (0x10000 + (high - 0xD800) * 0x400 + (low - 0xDC00)))
  else none

/-- The written form of a text after its opening quote, and what follows its closing quote. -/
def readWritten : List Char → Option (List Char × List Char)
  | [] => none
  | '"' :: rest => some ([], rest)
  | '\\' :: 'u' :: first :: second :: third :: fourth :: rest =>
      if (Text.hexNumber [first, second, third, fourth]).isSome then
        (readWritten rest).map fun (written, left) =>
          ('\\' :: 'u' :: first :: second :: third :: fourth :: written, left)
      else none
  | '\\' :: escape :: rest =>
      if (escapedMeaning escape).isSome then
        (readWritten rest).map fun (written, left) => ('\\' :: escape :: written, left)
      else none
  | character :: rest =>
      if character.toNat < 32 then none
      else (readWritten rest).map fun (written, left) => (character :: written, left)

/-- Half a character has no meaning unless its other half follows. -/
def meaning? : List Char → Option (List Char)
  | [] => some []
  | '\\' :: 'u' :: first :: second :: third :: fourth :: rest =>
      match Text.hexNumber [first, second, third, fourth] with
      | none => none
      | some unit =>
          if unit < 0xD800 ∨ 0xE000 ≤ unit then (meaning? rest).map (Char.ofNat unit :: ·)
          else
            match rest with
            | '\\' :: 'u' :: fifth :: sixth :: seventh :: eighth :: rest =>
                match (Text.hexNumber [fifth, sixth, seventh, eighth]).bind (joinedUnits unit) with
                | none => none
                | some character => (meaning? rest).map (character :: ·)
            | _ => none
  | '\\' :: escape :: rest =>
      match escapedMeaning escape with
      | none => none
      | some character => (meaning? rest).map (character :: ·)
  | character :: rest => (meaning? rest).map (character :: ·)

/-- A text without a meaning is kept as it is written. -/
def ofWritten (written : List Char) : Json :=
  match meaning? written with
  | some characters => .text (String.ofList characters)
  | none => .unread (String.ofList ('"' :: written ++ ['"']))

/-- The fields under the names that are written. -/
def nameFields? : List (List Char × Json) → Option (List (String × Json))
  | [] => some []
  | (written, value) :: rest => do
      return (String.ofList (← meaning? written), value) :: (← nameFields? rest)

/-- An object with a name that has no meaning is kept as it is written. -/
def ofFields (input rest : List Char) (fields : List (List Char × Json)) : Json :=
  match nameFields? fields with
  | some fields => .object fields
  | none => .unread (String.ofList (input.take (input.length - rest.length)))

/-- The whole part of a number has no leading zero unless it is zero. -/
def readWholePart (input : List Char) : Option (List Char × List Char) :=
  let digits := input.takeWhile Text.isDigit
  let rest := input.dropWhile Text.isDigit
  if digits = [] then none
  else if digits.head? = some '0' ∧ 1 < digits.length then none
  else some (digits, rest)

/-- The digits after a decimal point, where there is one. -/
def readFraction : List Char → Option (List Char × List Char)
  | '.' :: rest =>
      let digits := rest.takeWhile Text.isDigit
      if digits = [] then none else some ('.' :: digits, rest.dropWhile Text.isDigit)
  | rest => some ([], rest)

def readSign : List Char → List Char × List Char
  | '+' :: rest => (['+'], rest)
  | '-' :: rest => (['-'], rest)
  | rest => ([], rest)

/-- The sign and digits after the letter of an exponent, where there is one. -/
def readExponent : List Char → Option (List Char × List Char)
  | character :: rest =>
      if character = 'e' ∨ character = 'E' then
        let (sign, rest) := readSign rest
        let digits := rest.takeWhile Text.isDigit
        if digits = [] then none
        else some (character :: sign ++ digits, rest.dropWhile Text.isDigit)
      else some ([], character :: rest)
  | [] => some ([], [])

/-- Only numbers of 64 bits are whole, and minus zero is not. -/
def wholeNumber? (negative : Bool) (digits : List Char) : Option Int :=
  let value := Text.digitsValue digits
  if negative then
    if value = 0 ∨ Nat.pow 2 63 < value then none else some (-(value : Int))
  else if value < UInt64.size then some value
  else none

/-- The power of ten that an exponent with its letter stands for. -/
def exponentValue : List Char → Int
  | _ :: '-' :: digits => -(Text.digitsValue digits : Int)
  | _ :: '+' :: digits => Text.digitsValue digits
  | _ :: digits => Text.digitsValue digits
  | [] => 0

/-- A number that is too large for 64 bits is kept as it is written. -/
def readNumber (input : List Char) : Option (Json × List Char) := do
  let negative := input.head? = some '-'
  let (digits, rest) ← readWholePart (if negative then input.drop 1 else input)
  let (fraction, rest) ← readFraction rest
  let (exponent, rest) ← readExponent rest
  let written := String.ofList ((if negative then ['-'] else []) ++ digits ++ fraction ++ exponent)
  let fits := Text.fitsReal digits (fraction.drop 1) (exponentValue exponent)
  let real := if fits then Json.real written else .unread written
  if fraction = [] ∧ exponent = [] then
    match wholeNumber? negative digits with
    | some value => some (.whole value, rest)
    | none => some (real, rest)
  else some (real, rest)

mutual

/-- The value at the start of an input, and the rest. -/
def readValue (fuel : Nat) (input : List Char) : Option (Json × List Char) :=
  match fuel with
  | 0 => none
  | fuel + 1 =>
      match skipBlanks input with
      | 'n' :: 'u' :: 'l' :: 'l' :: rest => some (.null, rest)
      | 't' :: 'r' :: 'u' :: 'e' :: rest => some (.bool true, rest)
      | 'f' :: 'a' :: 'l' :: 's' :: 'e' :: rest => some (.bool false, rest)
      | '"' :: rest =>
          (readWritten rest).map fun (written, left) => (ofWritten written, left)
      | '[' :: rest =>
          match skipBlanks rest with
          | ']' :: rest => some (.list [], rest)
          | rest => (readMembers fuel rest).map fun (members, left) => (.list members, left)
      | '\x7b' :: rest =>
          match skipBlanks rest with
          | '\x7d' :: rest => some (.object [], rest)
          | rest =>
              (readFields fuel rest).map fun (fields, left) =>
                (ofFields ('\x7b' :: rest) left fields, left)
      | rest => readNumber rest

def readMembers (fuel : Nat) (input : List Char) : Option (List Json × List Char) :=
  match fuel with
  | 0 => none
  | fuel + 1 => do
      let (member, rest) ← readValue fuel input
      match skipBlanks rest with
      | ']' :: rest => some ([member], rest)
      | ',' :: rest =>
          (readMembers fuel rest).map fun (members, left) => (member :: members, left)
      | _ => none

/-- The fields of an object with the written forms of their names. -/
def readFields (fuel : Nat) (input : List Char) :
    Option (List (List Char × Json) × List Char) :=
  match fuel with
  | 0 => none
  | fuel + 1 =>
      match skipBlanks input with
      | '"' :: rest => do
          let (name, rest) ← readWritten rest
          match skipBlanks rest with
          | ':' :: rest => do
              let (value, rest) ← readValue fuel rest
              match skipBlanks rest with
              | '\x7d' :: rest => some ([(name, value)], rest)
              | ',' :: rest =>
                  (readFields fuel rest).map fun (fields, left) => ((name, value) :: fields, left)
              | _ => none
          | _ => none
      | _ => none

end

def parse? (text : String) : Option Json := do
  let input := text.toList
  let (value, rest) ← readValue (2 * input.length + 2) input
  if skipBlanks rest = [] then some value else none

end ResourceApi.Json
