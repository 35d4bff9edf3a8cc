/-
This file defines JSON values and how their members are reached.
-/

import ResourceApi.Dict

namespace ResourceApi

/-- Whole numbers of 64 bits are numbers, and of all others the text is kept. -/
inductive Json where
  | null
  | bool (value : Bool)
  | whole (value : Int)
  | real (text : String)
  | text (value : String)
  | list (members : List Json)
  | object (fields : List (String × Json))
  | unread (written : String)
  deriving Inhabited

namespace Json

def ofNat (value : Nat) : Json := .whole value

def texts (values : List String) : Json :=
  .list (values.map .text)

def ofOption {Value : Type} (write : Value → Json) : Option Value → Json
  | none => .null
  | some value => write value

def ofDict {Value : Type} (write : Value → Json) (dict : Dict Value) : Json :=
  .object (dict.entries.map fun entry => (entry.1, write entry.2))

/-- The member of an object that has the given name. -/
def field? (name : String) : Json → Option Json
  | .object fields => Entries.find? name fields
  | _ => none

/-- The field keeps its place, or comes last where it is new. -/
def setField (name : String) (value : Json) : List (String × Json) → List (String × Json)
  | [] => [(name, value)]
  | field :: rest =>
      if field.1 = name then (name, value) :: rest else field :: setField name value rest

theorem find?_setField (name sought : String) (value : Json) (fields : List (String × Json)) :
    Entries.find? sought (setField name value fields) =
      if sought = name then some value else Entries.find? sought fields := by
  induction fields with
  | nil => simp [setField, Entries.find?, eq_comm]
  | cons field rest inductionHypothesis =>
      by_cases sameName : field.1 = name
      · by_cases sameSought : sought = name
        · simp [setField, sameName, Entries.find?, sameSought]
        · have otherName : ¬ name = sought := fun equal => sameSought equal.symm
          simp [setField, sameName, Entries.find?, sameSought, otherName]
      · by_cases here : field.1 = sought
        · have otherName : ¬ sought = name := by rw [← here]; exact sameName
          simp [setField, Entries.find?, here, otherName]
        · simp [setField, sameName, Entries.find?, here, inductionHypothesis]

end Json

end ResourceApi
