/-
This file writes JSON values without spaces. The fields of an object are written in the order
of their names.
-/

import ResourceApi.Json
import ResourceApi.Text.Decimal
import ResourceApi.Text.Hex
import ResourceApi.Text.Split

namespace ResourceApi.Json

/-- Only the quote, the backslash and the control characters below the space are escaped. -/
def escapedCharacter (character : Char) : List Char :=
  if character = '"' then ['\\', '"']
  else if character = '\\' then ['\\', '\\']
  else if character = '\n' then ['\\', 'n']
  else if character = '\r' then ['\\', 'r']
  else if character = '\t' then ['\\', 't']
  else if character.toNat = 8 then ['\\', 'b']
  else if character.toNat = 12 then ['\\', 'f']
  else if character.toNat < 32 then
    ['\\', 'u', '0', '0', Text.lowerHexDigit (character.toNat / 16),
      Text.lowerHexDigit (character.toNat % 16)]
  else [character]

def printText (value : String) : String :=
  String.ofList ('"' :: value.toList.flatMap escapedCharacter ++ ['"'])

mutual

def print : Json → String
  | .null => "null"
  | .bool true => "true"
  | .bool false => "false"
  | .whole value => Text.writeInt value
  | .real written => written
  | .unread written => written
  | .text value => printText value
  | .list members => "[" ++ Text.join "," (printMembers members) ++ "]"
  | .object fields =>
      "\x7b" ++ Text.join "," ((Dict.ofList (printFields fields)).values) ++ "\x7d"

def printMembers : List Json → List String
  | [] => []
  | member :: rest => print member :: printMembers rest

/-- Each field goes with its name, so that the fields can be put into order. -/
def printFields : List (String × Json) → List (String × String)
  | [] => []
  | (name, value) :: rest => (name, printText name ++ ":" ++ print value) :: printFields rest

end

end ResourceApi.Json
