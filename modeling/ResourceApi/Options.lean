/-
This file defines the options of a server, which can be kept in a file.
-/

import ResourceApi.Json.Reader
import ResourceApi.Server.Config
import ResourceApi.Text.Blank

namespace ResourceApi

structure StorageOptions where
  /-- This is the root of every key. -/
  root : String := defaultRoot
  /-- Objects are written in these group versions. -/
  encodeVersions : List String := []
  deriving DecidableEq, Inhabited

structure Options where
  componentName : String := ""
  storage : StorageOptions := {}
  emulatedVersion : Option String := none
  featureGates : Dict Bool := .empty
  deriving DecidableEq, Inhabited

inductive OptionsError where
  | unreadable
  | malformed
  | invalid (field reason : String)
  deriving DecidableEq

def OptionsError.message : OptionsError → String
  | .unreadable => "IO error"
  | .malformed => "Yaml error"
  | .invalid field reason => "invalid " ++ field ++ ": " ++ reason

namespace StorageOptions

def write (options : StorageOptions) : Json :=
  .object [("prefix", .text options.root), ("encodeVersions", Json.texts options.encodeVersions)]

def read (json : Json) : Option StorageOptions := do
  let record ← json.asRecord ["prefix", "encodeVersions"]
  return {
    root := ← record.required "prefix" Json.asText
    encodeVersions := ← record.withDefault "encodeVersions" [] (Json.asList Json.asText) }

end StorageOptions

namespace Options

def new (root : String) (encodeVersions : List String) : Options :=
  { storage := { root, encodeVersions } }

def withEmulatedVersion (options : Options) (version : String) : Options :=
  { options with emulatedVersion := some version }

def withFeatureGate (options : Options) (name : String) (enabled : Bool) : Options :=
  { options with featureGates := options.featureGates.insert name enabled }

def write (options : Options) : Json :=
  .object <|
    Json.textField "componentName" options.componentName ++
    [("storage", options.storage.write)] ++
    Json.optionalField "emulatedVersion" .text options.emulatedVersion ++
    (if options.featureGates.isEmpty then []
      else [("featureGates", Json.ofDict .bool options.featureGates)])

def memberNames : List String := ["componentName", "storage", "emulatedVersion", "featureGates"]

def read (json : Json) : Option Options := do
  let record ← json.asRecord memberNames
  return {
    componentName := ← record.withDefault "componentName" "" Json.asText
    storage := ← record.withDefault "storage" {} StorageOptions.read
    emulatedVersion := ← record.withDefault "emulatedVersion" none (Json.asOption Json.asText)
    featureGates := ← record.withDefault "featureGates" .empty (Json.asDict Json.asBool) }

/-- Two or three runs of digits are separated by dots, maybe behind a v. -/
def isMajorMinor (version : String) : Bool :=
  let parts := Text.split '.' (Text.dropLead 'v' version.toList)
  (parts.length == 2 || parts.length == 3) &&
    parts.all fun part => part != [] && part.all Text.isDigit

def rootProblem? (options : Options) : Option OptionsError :=
  if Text.startsWith options.storage.root "/" then none
  else
    some (.invalid "storage.prefix"
      ("\"" ++ options.storage.root ++ "\" must be an absolute key"))

/-- Versions that are nothing but white space are reported with their places. -/
def encodeProblems (place : Nat) : List String → List OptionsError
  | [] => []
  | version :: rest =>
      let here :=
        if Text.trim version.toList = [] then
          [.invalid ("storage.encodeVersions[" ++ Text.writeNat place ++ "]") "must not be empty"]
        else []
      here ++ encodeProblems (place + 1) rest

def emulationProblem? (options : Options) : Option OptionsError :=
  match options.emulatedVersion with
  | none => none
  | some version =>
      if isMajorMinor version then none
      else
        some (.invalid "emulatedVersion" ("\"" ++ version ++ "\" is not of form major.minor"))

def gateProblem? (name : String) : Option OptionsError :=
  if name = "" ∨ name.toList.any Text.isBlank then
    some (.invalid "featureGates" ("illegal feature name \"" ++ name ++ "\""))
  else none

/-- Every problem, or nothing where the options are valid. -/
def problems (options : Options) : List OptionsError :=
  options.rootProblem?.toList ++ encodeProblems 0 options.storage.encodeVersions ++
    options.emulationProblem?.toList ++ options.featureGates.keys.filterMap gateProblem?

end Options

end ResourceApi
