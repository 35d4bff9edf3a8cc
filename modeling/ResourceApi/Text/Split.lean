/-
This file cuts texts at separators and tests how they begin.
-/

namespace ResourceApi.Text

/-- The pieces between the separators. There is always at least one piece. -/
def split (separator : Char) : List Char → List (List Char)
  | [] => [[]]
  | character :: rest =>
      if character = separator then [] :: split separator rest
      else
        match split separator rest with
        | [] => [[character]]
        | piece :: pieces => (character :: piece) :: pieces

/-- The texts before and after the first place where the mark stands. -/
def splitOnce (mark : List Char) : List Char → Option (List Char × List Char)
  | [] => none
  | character :: rest =>
      if mark.isPrefixOf (character :: rest) then
        some ([], (character :: rest).drop mark.length)
      else (splitOnce mark rest).map fun (before, after) => (character :: before, after)

/-- The text without one given first character, or unchanged where it begins otherwise. -/
def dropLead (lead : Char) : List Char → List Char
  | [] => []
  | character :: rest => if character = lead then rest else character :: rest

def startsWith (text start : String) : Bool :=
  start.toList.isPrefixOf text.toList

/-- The pieces one after the other with the separator between them. -/
def join (separator : String) : List String → String
  | [] => ""
  | [piece] => piece
  | piece :: pieces => piece ++ separator ++ join separator pieces

end ResourceApi.Text
