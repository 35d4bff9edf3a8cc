/-
This file shows that metadata are read back as they were written.
-/

import ResourceApi.Metadata
import ResourceApi.Proofs.Json.Record

namespace ResourceApi

namespace OwnerReference

/-- A missing controller is written as null and read as missing. -/
theorem read_write (owner : OwnerReference) : read owner.write = some owner := by
  have controller : Json.asOption Json.asBool (Json.ofOption .bool owner.controller) =
      some owner.controller := by
    cases owner.controller <;> rfl
  have fields : Json.asRecord memberNames owner.write = some ⟨false, [("apiVersion",
      .text owner.apiVersion), ("kind", .text owner.kind), ("name", .text owner.name),
      ("uid", .text owner.uid), ("controller", Json.ofOption .bool owner.controller)]⟩ :=
    Json.asRecord_object (by decide) (List.Sublist.refl _)
  simp [read, fields, Json.Record.required, Json.Record.withDefault, Json.asText, controller]

end OwnerReference

namespace ObjectMeta

/-- The fields that metadata are written as. -/
def fields (metadata : ObjectMeta) : List (String × Json) :=
  [("name", .text metadata.name)] ++
    Json.textField "generateName" metadata.generateName ++
    [("namespace", .text metadata.space)] ++
    Json.textField "uid" metadata.uid ++
    Json.optionalField "generation" Json.ofInt64 metadata.generation ++
    [("resourceVersion", .text metadata.resourceVersion)] ++
    Json.optionalField "deletionTimestamp" .text metadata.deletionTimestamp ++
    Json.optionalField "deletionGracePeriodSeconds" Json.ofUInt32
      metadata.deletionGracePeriodSeconds ++
    [("labels", Json.ofDict .text metadata.labels),
      ("annotations", Json.ofDict .text metadata.annotations)] ++
    Json.listField "ownerReferences" OwnerReference.write metadata.ownerReferences ++
    Json.listField "finalizers" .text metadata.finalizers

theorem write_eq (metadata : ObjectMeta) : metadata.write = .object metadata.fields := rfl

theorem fields_names (metadata : ObjectMeta) :
    (metadata.fields.map Prod.fst).Sublist memberNames := by
  simp only [fields, List.map_append, List.map_cons, List.map_nil]
  change List.Sublist _ (["name"] ++ ["generateName"] ++ ["namespace"] ++ ["uid"] ++
    ["generation"] ++ ["resourceVersion"] ++ ["deletionTimestamp"] ++
    ["deletionGracePeriodSeconds"] ++ ["labels", "annotations"] ++ ["ownerReferences"] ++
    ["finalizers"])
  refine .append (.append (.append (.append (.append (.append (.append (.append (.append (.append
    (.refl _) ?_) (.refl _)) ?_) ?_) (.refl _)) ?_) ?_) (.refl _)) ?_) ?_
  · exact Json.textField_names _ _
  · exact Json.textField_names _ _
  · exact Json.optionalField_names _ _ _
  · exact Json.optionalField_names _ _ _
  · exact Json.optionalField_names _ _ _
  · exact Json.listField_names _ _ _
  · exact Json.listField_names _ _ _

theorem asRecord_write (metadata : ObjectMeta) :
    Json.asRecord memberNames metadata.write = some ⟨false, metadata.fields⟩ :=
  Json.asRecord_object (by decide) metadata.fields_names

/-- Reading loses nothing, whichever fields were left out as empty. -/
theorem read_write (metadata : ObjectMeta) : read metadata.write = some metadata := by
  let record : Json.Record := ⟨false, metadata.fields⟩
  have name : record.withDefault "name" "" Json.asText = some metadata.name :=
    Json.Record.withDefault_present (Json.asText_text _) (by simp [record, fields])
  have generateName : record.withDefault "generateName" "" Json.asText =
      some metadata.generateName :=
    Json.Record.withDefault_text (by simp [record, fields])
  have space : record.withDefault "namespace" "" Json.asText = some metadata.space :=
    Json.Record.withDefault_present (Json.asText_text _) (by simp [record, fields])
  have uid : record.withDefault "uid" "" Json.asText = some metadata.uid :=
    Json.Record.withDefault_text (by simp [record, fields])
  have generation : record.withDefault "generation" none (Json.asOption Json.asInt64) =
      some metadata.generation :=
    Json.Record.withDefault_option Json.asInt64_ofInt64 nofun (by simp [record, fields])
  have resourceVersion : record.withDefault "resourceVersion" "" Json.asText =
      some metadata.resourceVersion :=
    Json.Record.withDefault_present (Json.asText_text _) (by simp [record, fields])
  have deletionTimestamp : record.withDefault "deletionTimestamp" none
      (Json.asOption Json.asText) = some metadata.deletionTimestamp :=
    Json.Record.withDefault_option Json.asText_text nofun (by simp [record, fields])
  have deletionGracePeriodSeconds : record.withDefault "deletionGracePeriodSeconds" none
      (Json.asOption Json.asUInt32) = some metadata.deletionGracePeriodSeconds :=
    Json.Record.withDefault_option Json.asUInt32_ofUInt32 nofun (by simp [record, fields])
  have labels : record.withDefault "labels" .empty (Json.asDict Json.asText) =
      some metadata.labels :=
    Json.Record.withDefault_present (Json.asDict_ofDict Json.asText_text metadata.labels)
      (by simp [record, fields])
  have annotations : record.withDefault "annotations" .empty (Json.asDict Json.asText) =
      some metadata.annotations :=
    Json.Record.withDefault_present (Json.asDict_ofDict Json.asText_text metadata.annotations)
      (by simp [record, fields])
  have ownerReferences : record.withDefault "ownerReferences" []
      (Json.asList OwnerReference.read) = some metadata.ownerReferences :=
    Json.Record.withDefault_list (Json.readAll_map OwnerReference.read_write _)
      (by simp [record, fields])
  have finalizers : record.withDefault "finalizers" [] (Json.asList Json.asText) =
      some metadata.finalizers :=
    Json.Record.withDefault_list (Json.readAll_map Json.asText_text _)
      (by simp [record, fields])
  rw [read, Json.bind_of_eq_some (asRecord_write metadata), Json.bind_of_eq_some name,
    Json.bind_of_eq_some generateName, Json.bind_of_eq_some space, Json.bind_of_eq_some uid,
    Json.bind_of_eq_some generation, Json.bind_of_eq_some resourceVersion,
    Json.bind_of_eq_some deletionTimestamp, Json.bind_of_eq_some deletionGracePeriodSeconds,
    Json.bind_of_eq_some labels, Json.bind_of_eq_some annotations,
    Json.bind_of_eq_some ownerReferences, Json.bind_of_eq_some finalizers]
  rfl

theorem version_of_read {json : Json} {metadata : ObjectMeta}
    (readable : read json = some metadata) :
    ∃ record, Json.asRecord memberNames json = some record ∧
      record.withDefault "resourceVersion" "" Json.asText = some metadata.resourceVersion := by
  obtain ⟨record, isRecord, readable⟩ := Option.bind_eq_some_iff.1 readable
  obtain ⟨name, _, readable⟩ := Option.bind_eq_some_iff.1 readable
  obtain ⟨generateName, _, readable⟩ := Option.bind_eq_some_iff.1 readable
  obtain ⟨space, _, readable⟩ := Option.bind_eq_some_iff.1 readable
  obtain ⟨uid, _, readable⟩ := Option.bind_eq_some_iff.1 readable
  obtain ⟨generation, _, readable⟩ := Option.bind_eq_some_iff.1 readable
  obtain ⟨version, readVersion, readable⟩ := Option.bind_eq_some_iff.1 readable
  obtain ⟨deletionTimestamp, _, readable⟩ := Option.bind_eq_some_iff.1 readable
  obtain ⟨deletionGracePeriodSeconds, _, readable⟩ := Option.bind_eq_some_iff.1 readable
  obtain ⟨labels, _, readable⟩ := Option.bind_eq_some_iff.1 readable
  obtain ⟨annotations, _, readable⟩ := Option.bind_eq_some_iff.1 readable
  obtain ⟨ownerReferences, _, readable⟩ := Option.bind_eq_some_iff.1 readable
  obtain ⟨finalizers, _, readable⟩ := Option.bind_eq_some_iff.1 readable
  cases readable
  exact ⟨record, isRecord, readVersion⟩

/-- The fields before the version. -/
def leadingFields (metadata : ObjectMeta) : List (String × Json) :=
  [("name", .text metadata.name)] ++
    Json.textField "generateName" metadata.generateName ++
    [("namespace", .text metadata.space)] ++
    Json.textField "uid" metadata.uid ++
    Json.optionalField "generation" Json.ofInt64 metadata.generation

/-- The fields after the version. -/
def trailingFields (metadata : ObjectMeta) : List (String × Json) :=
  Json.optionalField "deletionTimestamp" .text metadata.deletionTimestamp ++
    Json.optionalField "deletionGracePeriodSeconds" Json.ofUInt32
      metadata.deletionGracePeriodSeconds ++
    [("labels", Json.ofDict .text metadata.labels),
      ("annotations", Json.ofDict .text metadata.annotations)] ++
    Json.listField "ownerReferences" OwnerReference.write metadata.ownerReferences ++
    Json.listField "finalizers" .text metadata.finalizers

theorem fields_eq (metadata : ObjectMeta) :
    metadata.fields =
      metadata.leadingFields ++
        ("resourceVersion", .text metadata.resourceVersion) :: metadata.trailingFields := by
  simp [fields, leadingFields, trailingFields]

/-- The version is written in one place whatever it is. -/
theorem setField_fields (metadata : ObjectMeta) (version : String) :
    Json.setField "resourceVersion" (.text version) metadata.fields =
      { metadata with resourceVersion := version }.fields := by
  have absent : Entries.find? "resourceVersion" metadata.leadingFields = none := by
    simp [leadingFields]
  rw [fields_eq, fields_eq, Json.setField_append absent, Json.setField_cons]
  rfl

end ObjectMeta

end ResourceApi
