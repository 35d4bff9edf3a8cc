/-
This file defines the options of a list request and how they stand in a query.
-/

import ResourceApi.Json.Reader
import ResourceApi.Text.Decimal
import ResourceApi.Text.Form

namespace ResourceApi

structure ListOptions where
  labelSelector : Option String := none
  fieldSelector : Option String := none
  limit : Option UInt32 := none
  resourceVersion : Option String := none
  deriving DecidableEq, Inhabited

namespace ListOptions

def memberNames : List String := ["labelSelector", "fieldSelector", "limit", "resourceVersion"]

def write (options : ListOptions) : Json :=
  .object <|
    Json.optionalField "labelSelector" .text options.labelSelector ++
    Json.optionalField "fieldSelector" .text options.fieldSelector ++
    Json.optionalField "limit" Json.ofUInt32 options.limit ++
    Json.optionalField "resourceVersion" .text options.resourceVersion

def read (json : Json) : Option ListOptions := do
  let record ← json.asRecord memberNames
  return {
    labelSelector := ← record.optional "labelSelector" Json.asText
    fieldSelector := ← record.optional "fieldSelector" Json.asText
    limit := ← record.optional "limit" Json.asUInt32
    resourceVersion := ← record.optional "resourceVersion" Json.asText }

/-- An empty value is no value. -/
def queryValue (value : Option String) : Option String :=
  value.filter (· ≠ "")

/-- A limit is written with digits alone. -/
def readLimit (value : String) : Option UInt32 := do
  let number ← Text.readDigits value.toList
  if number < UInt32.size then some (UInt32.ofNat number) else none

/-- The names and values of a query, decoded. No name may occur twice. -/
def queryEntries : List (String × Option String) → Option (List (String × Option String))
  | [] => some []
  | (name, value) :: rest => do
      let name ← Text.formDecode name
      let value ← match value with
        | none => some none
        | some value => (Text.formDecode value).map some
      let entries ← queryEntries rest
      if (entries.map Prod.fst).contains name then none
      else some ((name, queryValue value) :: entries)

/-- Names that are no option are ignored. -/
def ofQuery? (query : String) : Option ListOptions := do
  let entries ← queryEntries (Text.formPairs query)
  let value (name : String) : Option String := (Entries.find? name entries).join
  let limit ← match value "limit" with
    | none => some none
    | some written => (readLimit written).map some
  return {
    labelSelector := value "labelSelector"
    fieldSelector := value "fieldSelector"
    limit
    resourceVersion := value "resourceVersion" }

def toQuery (options : ListOptions) : String :=
  let field (name : String) : Option String → List String
    | none => []
    | some value => [name ++ "=" ++ Text.formEncode value]
  Text.join "&" <|
    field "labelSelector" options.labelSelector ++
    field "fieldSelector" options.fieldSelector ++
    field "limit" (options.limit.map fun limit => Text.writeNat limit.toNat) ++
    field "resourceVersion" options.resourceVersion

end ListOptions

end ResourceApi
