/-
This file reads the options of a server from a YAML document and writes them as one.
-/

import ResourceApi.Options
import ResourceApi.Yaml.Printer
import ResourceApi.Yaml.Reader

namespace ResourceApi

def StorageOptions.ofNode : Yaml.Reader StorageOptions := fun document node => do
  let fields ← Yaml.asRecord ["prefix", "encodeVersions"] document node
  return {
    root := ← Yaml.required document fields "prefix" Yaml.asText
    encodeVersions :=
      ← Yaml.withDefault document fields "encodeVersions" [] (Yaml.asList Yaml.asText) }

namespace Options

def ofNode : Yaml.Reader Options := fun document node => do
  let fields ← Yaml.asRecord memberNames document node
  return {
    componentName := ← Yaml.withDefault document fields "componentName" "" Yaml.asText
    storage := ← Yaml.withDefault document fields "storage" {} StorageOptions.ofNode
    emulatedVersion :=
      ← Yaml.withDefault document fields "emulatedVersion" none (Yaml.asOption Yaml.asText)
    featureGates :=
      ← Yaml.withDefault document fields "featureGates" .empty (Yaml.asDict Yaml.asTruth) }

/-- An empty document leaves every option as it is by default. -/
def ofDocument (text : String) : Except OptionsError Options :=
  match Yaml.Document.parse? text with
  | none => .error .malformed
  | some document =>
      match document.root with
      | none => .ok {}
      | some root =>
          match ofNode document root with
          | none => .error .malformed
          | some options => .ok options

/-- Options that are left out are read as their defaults. -/
def toDocument (options : Options) : String :=
  let component :=
    if options.componentName = "" then []
    else Yaml.textLine 0 "componentName" options.componentName
  let storage :=
    Yaml.keyLine 0 "storage" ++ Yaml.textLine 2 "prefix" options.storage.root ++
      Yaml.listLines 2 "encodeVersions" options.storage.encodeVersions
  let emulated :=
    match options.emulatedVersion with
    | none => []
    | some version => Yaml.textLine 0 "emulatedVersion" version
  let gates :=
    if options.featureGates.isEmpty then []
    else
      Yaml.keyLine 0 "featureGates" ++ options.featureGates.entries.flatMap fun entry =>
        Yaml.truthLine 2 entry.1 entry.2
  String.ofList (component ++ storage ++ emulated ++ gates)

end Options

end ResourceApi
