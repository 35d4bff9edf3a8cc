/-
This file reads typed values out of the nodes of a YAML document. Any scalar can be read as a text.
Null and truth values must be plain.
-/

import ResourceApi.Dict
import ResourceApi.Yaml.Node
import ResourceApi.Yaml.Plain

namespace ResourceApi.Yaml

/-- A reader refuses every node that is not written as its type demands. -/
abbrev Reader (Value : Type) := Document → Node → Option Value

variable {Value : Type}

def nullTag : String := "tag:yaml.org,2002:null"

def truthTag : String := "tag:yaml.org,2002:bool"

def asText : Reader String := fun document node => do
  match ← document.follow node with
  | .scalar _ _ content => some content
  | _ => none

/-- A literal block can be a truth value where its tag says so. -/
def asTruth : Reader Bool := fun document node => do
  match ← document.follow node with
  | .scalar .plain _ content => truth? content
  | .scalar .literal (some tag) content => if tag = truthTag then truth? content else none
  | _ => none

/-- Null and a missing node stand for nothing. With another tag they stand for themselves. -/
def asOption (reader : Reader Value) : Reader (Option Value) := fun document node => do
  match ← document.follow node with
  | .scalar .plain none content =>
      if content = "" ∨ isNull content then some none
      else (reader document node).map some
  | .scalar .plain (some tag) content =>
      if tag = nullTag then if isNull content then some none else none
      else (reader document node).map some
  | _ => (reader document node).map some

/-- A missing node is an empty list. -/
def asList (reader : Reader Value) : Reader (List Value) := fun document node => do
  match ← document.follow node with
  | .sequence items => items.mapM (reader document)
  | .scalar .plain _ "" => some []
  | _ => none

/-- The fields of a mapping with their keys as texts. A missing node has no fields. -/
def asFields : Reader (List (String × Node)) := fun document node => do
  match ← document.follow node with
  | .mapping fields =>
      fields.mapM fun field => do return (← asText document field.1, field.2)
  | .scalar .plain _ "" => some []
  | _ => none

/-- A record has none of its members twice. Other fields do not matter. -/
def asRecord (names : List String) : Reader (List (String × Node)) := fun document node => do
  let fields ← asFields document node
  if names.all fun name => (fields.map Prod.fst).count name ≤ 1 then some fields else none

def required (document : Document) (fields : List (String × Node)) (name : String)
    (reader : Reader Value) : Option Value :=
  (fields.lookup name).bind (reader document)

def withDefault (document : Document) (fields : List (String × Node)) (name : String)
    (default : Value) (reader : Reader Value) : Option Value :=
  match fields.lookup name with
  | none => some default
  | some node => reader document node

/-- Where a key is written twice, its last value stays. -/
def asDict (reader : Reader Value) : Reader (Dict Value) := fun document node => do
  let entries ← (← asFields document node).mapM fun (key, value) => do
    return (key, ← reader document value)
  return Dict.ofList entries

end ResourceApi.Yaml
