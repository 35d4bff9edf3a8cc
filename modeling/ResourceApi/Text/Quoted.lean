/-
This file writes a text in double quotes for people to read. Characters that cannot be seen
on their own are written by name or by number.
-/

import ResourceApi.Text.Hex
import ResourceApi.Text.Split
import ResourceApi.Text.Unseen

namespace ResourceApi.Text

def quotedCharacter (character : Char) : List Char :=
  if character = '"' then ['\\', '"']
  else if character = '\\' then ['\\', '\\']
  else if character = '\n' then ['\\', 'n']
  else if character = '\r' then ['\\', 'r']
  else if character = '\t' then ['\\', 't']
  else if character.toNat = 0 then ['\\', '0']
  else if isUnseen character then
    ['\\', 'u', '\x7b'] ++ lowerHex character.toNat ++ ['\x7d']
  else [character]

def quoted (text : String) : String :=
  String.ofList ('"' :: text.toList.flatMap quotedCharacter ++ ['"'])

/-- A list is written in brackets with a comma and a space between its members. -/
def bracketed (members : List String) : String :=
  "[" ++ join ", " members ++ "]"

/-- A record is written as its name and its labelled fields in braces. -/
def labelled (name : String) (fields : List (String × String)) : String :=
  name ++ " \x7b " ++ join ", " (fields.map fun (label, value) => label ++ ": " ++ value)
    ++ " \x7d"

end ResourceApi.Text
