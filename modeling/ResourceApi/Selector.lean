/-
This file defines selectors: lists of requirements on a set of labels or fields. They are written
as terms with commas between them, and every requirement must hold.
-/

import ResourceApi.Dict
import ResourceApi.Text.Blank
import ResourceApi.Text.Split

namespace ResourceApi

inductive SelectorError where
  | invalidTerm (term : String)
  | emptyKey (term : String)
  deriving DecidableEq

def SelectorError.message : SelectorError → String
  | .invalidTerm term => "invalid selector term \"" ++ term ++ "\""
  | .emptyKey term => "empty key in selector term \"" ++ term ++ "\""

inductive Requirement where
  | equals (key value : String)
  | differs (key value : String)
  | present (key : String)
  | absent (key : String)
  deriving DecidableEq

namespace Requirement

def key : Requirement → String
  | .equals key _ => key
  | .differs key _ => key
  | .present key => key
  | .absent key => key

def value? : Requirement → Option String
  | .equals _ value => some value
  | .differs _ value => some value
  | .present _ => none
  | .absent _ => none

/-- A key that the set lacks differs from every value. -/
def holds (set : Dict String) : Requirement → Bool
  | .equals key value => set.get? key == some value
  | .differs key value => set.get? key != some value
  | .present key => set.contains key
  | .absent key => !set.contains key

def display : Requirement → String
  | .equals key value => key ++ "=" ++ value
  | .differs key value => key ++ "!=" ++ value
  | .present key => key
  | .absent key => "!" ++ key

/-- A key holds no white space, no exclamation mark and no equals sign. -/
def isKeyCharacter (character : Char) : Bool :=
  !(Text.isBlank character || character = '!' || character = '=')

def readKey (term key : List Char) : Except SelectorError String :=
  let key := Text.trim key
  if key = [] then .error (.emptyKey (String.ofList term))
  else if key.all isKeyCharacter then .ok (String.ofList key)
  else .error (.invalidTerm (String.ofList term))

def trimmed (value : List Char) : String := String.ofList (Text.trim value)

/-- The operators are looked for one after the other, unequal signs first. -/
def parse (term : List Char) : Except SelectorError Requirement :=
  match Text.splitOnce ['!', '='] term with
  | some (key, value) => (readKey term key).map (.differs · (trimmed value))
  | none =>
      match Text.splitOnce ['=', '='] term with
      | some (key, value) => (readKey term key).map (.equals · (trimmed value))
      | none =>
          match Text.splitOnce ['='] term with
          | some (key, value) =>
              if value.contains '=' then .error (.invalidTerm (String.ofList term))
              else (readKey term key).map (.equals · (trimmed value))
          | none =>
              match term with
              | '!' :: key => (readKey term key).map .absent
              | key => (readKey term key).map .present

end Requirement

structure Selector where
  requirements : List Requirement
  deriving DecidableEq, Inhabited

namespace Selector

def everything : Selector := ⟨[]⟩

def isEmpty (selector : Selector) : Bool := selector.requirements.isEmpty

/-- The terms of a text, without the white space around them and without empty ones. -/
def terms (written : List Char) : List (List Char) :=
  ((Text.split ',' written).map Text.trim).filter (· ≠ [])

def parseTerms : List (List Char) → Except SelectorError (List Requirement)
  | [] => .ok []
  | term :: rest =>
      match Requirement.parse term with
      | .error error => .error error
      | .ok requirement => (parseTerms rest).map (requirement :: ·)

def parse (written : String) : Except SelectorError Selector :=
  (parseTerms (terms written.toList)).map Selector.mk

def holds (selector : Selector) (set : Dict String) : Bool :=
  selector.requirements.all (·.holds set)

def display (selector : Selector) : String :=
  Text.join "," (selector.requirements.map Requirement.display)

end Selector

end ResourceApi
