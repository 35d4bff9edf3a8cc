/-
This file defines the tables in which objects are shown to people.
-/

import ResourceApi.Json.Reader

namespace ResourceApi

structure TableColumn where
  name : String
  type : String
  format : String := ""
  description : String := ""
  priority : Int32 := 0
  deriving Inhabited

structure TableRow where
  cells : List Json
  object : Option Json := none
  deriving Inhabited

structure Table where
  columns : List TableColumn
  rows : List TableRow
  deriving Inhabited

namespace TableColumn

def write (column : TableColumn) : Json :=
  .object <|
    [("name", .text column.name), ("type", .text column.type)] ++
    Json.textField "format" column.format ++
    [("description", .text column.description), ("priority", Json.ofInt32 column.priority)]

def read (json : Json) : Option TableColumn := do
  let record ← json.asRecord ["name", "type", "format", "description", "priority"]
  return {
    name := ← record.required "name" Json.asText
    type := ← record.required "type" Json.asText
    format := ← record.withDefault "format" "" Json.asText
    description := ← record.withDefault "description" "" Json.asText
    priority := ← record.withDefault "priority" 0 Json.asInt32 }

end TableColumn

namespace TableRow

def write (row : TableRow) : Json :=
  .object ([("cells", .list row.cells)] ++ Json.optionalField "object" id row.object)

/-- The parts of a row stand inside lists and objects, which are counted. -/
def read (json : Json) : Option TableRow := do
  let record ← json.asRecord ["cells", "object"]
  return {
    cells := ← record.required "cells" (Json.asList (Json.asAny (Json.depthLimit - 4)))
    object := ← record.withDefault "object" none
      (Json.asOption (Json.asAny (Json.depthLimit - 3))) }

end TableRow

namespace Table

def write (table : Table) : Json :=
  .object [("columnDefinitions", .list (table.columns.map TableColumn.write)),
    ("rows", .list (table.rows.map TableRow.write))]

def read (json : Json) : Option Table := do
  let record ← json.asRecord ["columnDefinitions", "rows"]
  return {
    columns := ← record.required "columnDefinitions" (Json.asList TableColumn.read)
    rows := ← record.required "rows" (Json.asList TableRow.read) }

end Table

end ResourceApi
