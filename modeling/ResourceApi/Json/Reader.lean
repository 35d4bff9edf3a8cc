/-
This file reads typed values out of JSON values. A record is written as an object, or as the
list of its members in their order.
-/

import ResourceApi.Json

namespace ResourceApi

/-- A reader refuses every value that is not written as its type demands. -/
abbrev Json.Reader (Value : Type) := Json → Option Value

namespace Json

variable {Value : Type}

def asText : Reader String
  | .text value => some value
  | _ => none

def asBool : Reader Bool
  | .bool value => some value
  | _ => none

def asWhole : Reader Int
  | .whole value => some value
  | _ => none

def asInt64 (json : Json) : Option Int64 := do
  let value ← json.asWhole
  if Int64.minValue.toInt ≤ value ∧ value ≤ Int64.maxValue.toInt then some (Int64.ofInt value)
  else none

def asInt32 (json : Json) : Option Int32 := do
  let value ← json.asWhole
  if Int32.minValue.toInt ≤ value ∧ value ≤ Int32.maxValue.toInt then some (Int32.ofInt value)
  else none

def asUInt32 (json : Json) : Option UInt32 := do
  let value ← json.asWhole
  if 0 ≤ value ∧ value < UInt32.size then some (UInt32.ofNat value.toNat) else none

def ofInt64 (value : Int64) : Json := .whole value.toInt

def ofInt32 (value : Int32) : Json := .whole value.toInt

def ofUInt32 (value : UInt32) : Json := .whole value.toNat

/-- Null stands for nothing. -/
def asOption (reader : Reader Value) : Reader (Option Value)
  | .null => some none
  | json => (reader json).map some

def readAll (reader : Reader Value) : List Json → Option (List Value)
  | [] => some []
  | json :: rest => do return (← reader json) :: (← readAll reader rest)

def asList (reader : Reader Value) : Reader (List Value)
  | .list members => readAll reader members
  | _ => none

def readEntries (reader : Reader Value) :
    List (String × Json) → Option (List (String × Value))
  | [] => some []
  | (key, json) :: rest => do return (key, ← reader json) :: (← readEntries reader rest)

/-- The greatest number of lists and objects inside one another that are read. -/
def depthLimit : Nat := 127

/-- Every part can be read, and not too many parts contain one another. -/
def asAny : Nat → Reader Json
  | 0, .list _ | 0, .object _ => none
  | depth + 1, .list members => (readAll (asAny depth) members).map .list
  | depth + 1, .object fields => (readEntries (asAny depth) fields).map .object
  | _, .unread _ => none
  | _, json => some json

def asDict (reader : Reader Value) : Reader (Dict Value)
  | .object fields => (readEntries reader fields).map Dict.ofList
  | _ => none

/-- The members of a record by name, and whether they were written as a list. -/
structure Record where
  positional : Bool
  members : List (String × Json)

/-- A record is an object with these fields, or the list of their values. -/
def asRecord (names : List String) : Reader Record
  | .object fields =>
      if names.all fun name => (fields.map Prod.fst).count name ≤ 1 then some ⟨false, fields⟩
      else none
  | .list members =>
      if members.length ≤ names.length then some ⟨true, names.zip members⟩ else none
  | _ => none

namespace Record

def required (record : Record) (name : String) (reader : Reader Value) : Option Value :=
  (Entries.find? name record.members).bind reader

def withDefault (record : Record) (name : String) (default : Value) (reader : Reader Value) :
    Option Value :=
  match Entries.find? name record.members with
  | none => some default
  | some json => reader json

/-- A member that an object may lack but a list may not. -/
def optional (record : Record) (name : String) (reader : Reader Value) : Option (Option Value) :=
  match Entries.find? name record.members with
  | none => if record.positional then none else some none
  | some json => asOption reader json

end Record

/-- The field where its value is something, and no field where it is nothing. -/
def optionalField (name : String) (write : Value → Json) : Option Value → List (String × Json)
  | none => []
  | some value => [(name, write value)]

/-- The field where its text is not empty. -/
def textField (name : String) (value : String) : List (String × Json) :=
  if value = "" then [] else [(name, .text value)]

/-- The field where its list is not empty. -/
def listField (name : String) (write : Value → Json) (values : List Value) :
    List (String × Json) :=
  if values.isEmpty then [] else [(name, .list (values.map write))]

end Json

end ResourceApi
