/-
This file defines widgets. Widgets have every optional behaviour.
-/

import ResourceApi.Catalog.Plain

namespace ResourceApi.Catalog

structure WidgetSpec where
  value : String := ""
  tags : List String := []
  count : Option Int64 := none
  flag : Bool := false
  deriving DecidableEq, Inhabited

structure WidgetStatus where
  phase : String := ""
  ready : Bool := false
  deriving DecidableEq, Inhabited

def WidgetSpec.write (spec : WidgetSpec) : Json :=
  .object [("value", .text spec.value), ("tags", Json.texts spec.tags),
    ("count", Json.ofOption Json.ofInt64 spec.count), ("flag", .bool spec.flag)]

def WidgetSpec.read (json : Json) : Option WidgetSpec := do
  let record ← json.asRecord ["value", "tags", "count", "flag"]
  return {
    value := ← record.required "value" Json.asText
    tags := ← record.withDefault "tags" [] (Json.asList Json.asText)
    count := ← record.withDefault "count" none (Json.asOption Json.asInt64)
    flag := ← record.withDefault "flag" false Json.asBool }

def WidgetStatus.write (status : WidgetStatus) : Json :=
  .object [("phase", .text status.phase), ("ready", .bool status.ready)]

def WidgetStatus.read (json : Json) : Option WidgetStatus := do
  let record ← json.asRecord ["phase", "ready"]
  return {
    phase := ← record.required "phase" Json.asText
    ready := ← record.withDefault "ready" false Json.asBool }

def widget : Kind WidgetSpec WidgetStatus where
  group := sampleGroup
  version := "v1"
  name := "Widget"
  plural := "widgets"
  defaultSpec := {}
  defaultStatus := {}
  writeSpec := WidgetSpec.write
  readSpec := WidgetSpec.read
  writeStatus := WidgetStatus.write
  readStatus := WidgetStatus.read

abbrev Widget := Object WidgetSpec WidgetStatus

/-- The user is noted in an annotation, where there is one. -/
def signed (note : String) (context : Context) (widget : Widget) : Widget :=
  match context.user with
  | none => widget
  | some user =>
      let annotations := widget.metadata.annotations.insert note user
      { widget with metadata.annotations := annotations }

def prepareNewWidget (context : Context) (widget : Widget) : Widget :=
  signed "created-by" context
    { widget with spec.flag := true, status := {}, metadata.generation := some 1 }

/-- The number after a generation. The greatest generation stays. -/
def nextGeneration (generation : Int64) : Int64 :=
  if generation = Int64.maxValue then generation else generation + 1

/-- The generation counts the changes of the specification. -/
def prepareChangedWidget (context : Context) (widget stored : Widget) : Widget :=
  let generation :=
    stored.metadata.generation.map fun generation =>
      if widget.spec = stored.spec then generation else nextGeneration generation
  signed "updated-by" context { widget with metadata.generation := generation }

def specPath (name : String) : FieldPath := (⟨"spec"⟩ : FieldPath).child name

def valueErrors (value : String) : List FieldError :=
  if value = "" then [FieldError.required (specPath "value") ""]
  else if Text.startsWith value "x-" then
    [FieldError.notSupported (specPath "value") (.text value) ["a", "b"]]
  else []

/-- Each tag must be there and must not occur before. -/
def tagErrors (before : List String) : List String → List FieldError
  | [] => []
  | tag :: rest =>
      let path := (specPath "tags").index before.length
      let here :=
        if tag = "" then [FieldError.required path "tag is empty"]
        else if before.contains tag then [FieldError.duplicate path (.text tag)]
        else []
      here ++ tagErrors (before ++ [tag]) rest

def countErrors : Option Int64 → List FieldError
  | none => []
  | some count =>
      if count < 0 then
        [FieldError.invalid (specPath "count") (Json.ofInt64 count) "must not be negative"]
      else []

def guestErrors (context : Context) : List FieldError :=
  if context.user = some "guest" then
    [FieldError.forbidden (({} : FieldPath).child "metadata") "guests may not write"]
  else []

def validateWidget (context : Context) (widget : Widget) : List FieldError :=
  valueErrors widget.spec.value ++ tagErrors [] widget.spec.tags ++
    countErrors widget.spec.count ++ guestErrors context

def validateChangedWidget (widget stored : Widget) : List FieldError :=
  let frozen :=
    if stored.spec.value = "frozen" ∧ widget.spec.value ≠ "frozen" then
      [FieldError.forbidden (specPath "value") "is frozen"]
    else []
  let finished :=
    if stored.status.phase = "done" ∧ widget.status.phase ≠ "done" then
      [FieldError.invalid ((⟨"status"⟩ : FieldPath).child "phase") (.text widget.status.phase) ""]
    else []
  frozen ++ finished

def lowerLetter (character : Char) : Char :=
  if 'A' ≤ character ∧ character ≤ 'Z' then Char.ofNat (character.toNat + 32) else character

/-- The value without spaces at its ends, and with ASCII letters in lower case. -/
def canonicalValue (value : String) : String :=
  let isSpace (character : Char) : Bool := character = ' '
  let inner := (value.toList.dropWhile isSpace).reverse.dropWhile isSpace
  String.ofList (inner.reverse.map lowerLetter)

def sortedTags (tags : List String) : List String :=
  tags.mergeSort fun first second => !(second < first : Bool)

def canonicalWidget (widget : Widget) : Widget :=
  let spec :=
    { widget.spec with
      value := canonicalValue widget.spec.value, tags := sortedTags widget.spec.tags }
  { widget with spec }

def widgetRow (context : Context) (widget : Widget) : Except ApiError TableRow :=
  if widget.spec.value = "untabled" then
    .error (.badRequest ("cannot tabulate " ++ widget.metadata.name))
  else
    .ok {
      cells := [.text widget.metadata.name, Json.ofOption Json.ofInt64 widget.spec.count]
      object := if context.user = some "admin" then some (.text widget.spec.value) else none }

def widgetColumns : List TableColumn :=
  [{ name := "Name", type := "string", format := "name" },
    { name := "Count", type := "integer", description := "how many", priority := -1 }]

def widgetTable (context : Context) (widgets : List Widget) : Except ApiError Table :=
  (widgets.mapM (widgetRow context)).map fun rows => ⟨widgetColumns, rows⟩

def widgetCapabilities : Capabilities WidgetSpec WidgetStatus where
  generateName := some fun base => base ++ "-X"
  prepareForCreate := some prepareNewWidget
  prepareForUpdate := some prepareChangedWidget
  validate := some validateWidget
  validateUpdate := some fun _ widget stored => validateChangedWidget widget stored
  canonicalize := some canonicalWidget
  allowCreateOnUpdate := some true
  allowUnconditionalUpdate := some true
  convertToTable := some widgetTable
  shortNames := some ["wd", "wdg"]
  singularName := some "widgie"
  copyStatus := some Capabilities.copyWholeStatus

end ResourceApi.Catalog
