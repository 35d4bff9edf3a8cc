/-
This file shows that objects are read back as they were written, also after the backend has set
their version.
-/

import ResourceApi.Backend
import ResourceApi.Kind
import ResourceApi.Proofs.Metadata
import ResourceApi.Proofs.Text.Decimal

namespace ResourceApi

namespace Object

variable {Spec Status : Type}

/-- The fields that an object is written as. -/
def fields (kind : Kind Spec Status) (object : Object Spec Status) : List (String × Json) :=
  [("apiVersion", .text object.apiVersion), ("kind", .text object.kind),
    ("metadata", object.metadata.write), ("spec", kind.writeSpec object.spec),
    ("status", kind.writeStatus object.status)]

theorem write_eq (kind : Kind Spec Status) (object : Object Spec Status) :
    object.write kind = .object (object.fields kind) := rfl

theorem asRecord_write (kind : Kind Spec Status) (object : Object Spec Status) :
    Json.asRecord memberNames (object.write kind) = some ⟨false, object.fields kind⟩ :=
  Json.asRecord_object (by decide) (List.Sublist.refl _)

/-- Only the specification and the status can be lost between writing and reading. -/
theorem read_write (kind : Kind Spec Status) (object : Object Spec Status) :
    read kind (object.write kind) =
      (kind.readSpec (kind.writeSpec object.spec)).bind fun spec =>
        (kind.readStatus (kind.writeStatus object.status)).map fun status =>
          { object with spec, status } := by
  rw [read, asRecord_write]
  simp only [Json.Record.withDefault, fields, Entries.find?_cons, String.reduceEq, ↓reduceIte,
    Json.asText, ObjectMeta.read_write, Option.map_eq_bind, Option.bind_eq_bind, Option.bind_some,
    Option.pure_def]
  rfl

theorem read_write_of_faithful {kind : Kind Spec Status} (faithful : kind.Faithful)
    (object : Object Spec Status) : read kind (object.write kind) = some object := by
  rw [read_write, faithful.1, faithful.2]
  rfl

/-- Whatever becomes of the rest, the metadata come back. -/
theorem metadata_of_read_write {kind : Kind Spec Status} {object result : Object Spec Status}
    (readable : read kind (object.write kind) = some result) :
    result.metadata = object.metadata := by
  rw [read_write] at readable
  obtain ⟨spec, _, readable⟩ := Option.bind_eq_some_iff.1 readable
  obtain ⟨status, _, rfl⟩ := Option.map_eq_some_iff.1 readable
  rfl

theorem address_eq_iff {first second : Object Spec Status} :
    first.address = second.address ↔
      first.metadata.name = second.metadata.name ∧ first.metadata.space = second.metadata.space := by
  simp only [address, ObjectMeta.address, Address.mk.injEq]

theorem metadata_of_read {kind : Kind Spec Status} {json : Json} {object : Object Spec Status}
    (readable : read kind json = some object) :
    ∃ record, Json.asRecord memberNames json = some record ∧
      record.withDefault "metadata" {} ObjectMeta.read = some object.metadata := by
  simp only [read, Option.bind_eq_bind, Option.bind_eq_some_iff] at readable
  obtain ⟨record, isRecord, apiVersion, _, name, _, metadata, readMetadata, spec, _, status, _,
    equal⟩ := readable
  cases equal
  exact ⟨record, isRecord, readMetadata⟩

end Object

namespace Backend

/-- The document carries the revision as its version, in the place where the backend sets it. -/
def Stamped (revision : Nat) (document : Json) : Prop :=
  ∃ fields metadata, document = .object fields ∧
    Entries.find? "metadata" fields = some (.object metadata) ∧
    Entries.find? "resourceVersion" metadata = some (.text (Text.writeNat revision))

theorem stamped_of_stamp {revision : Nat} {document stamped : Json}
    (done : stamp revision document = some stamped) : Stamped revision stamped := by
  unfold stamp at done
  split at done
  next fields =>
    split at done
    next metadata found =>
      cases done
      exact ⟨_, _, rfl, by rw [Json.find?_setField, if_pos rfl],
        by rw [Json.find?_setField, if_pos rfl]⟩
    · cases done
  · cases done

theorem Stamped.documentVersion {revision : Nat} {document : Json}
    (stamped : Stamped revision document) :
    documentVersion document = Text.writeNat revision := by
  obtain ⟨fields, metadata, rfl, found, version⟩ := stamped
  simp [Backend.documentVersion, Json.field?, found, version]

/-- Every kind reads the version that the backend has set. -/
theorem Stamped.version_of_read {Spec Status : Type} {kind : Kind Spec Status} {revision : Nat}
    {document : Json} {object : Object Spec Status} (stamped : Stamped revision document)
    (readable : Object.read kind document = some object) :
    object.metadata.resourceVersion = Text.writeNat revision := by
  obtain ⟨fields, members, rfl, found, version⟩ := stamped
  obtain ⟨record, isRecord, readMetadata⟩ := Object.metadata_of_read readable
  obtain rfl := Json.eq_of_asRecord_object isRecord
  rw [Json.Record.withDefault, found] at readMetadata
  obtain ⟨inner, isInner, readVersion⟩ := ObjectMeta.version_of_read readMetadata
  obtain rfl := Json.eq_of_asRecord_object isInner
  rw [Json.Record.withDefault, version] at readVersion
  exact (Option.some.inj readVersion).symm

/-- The backend sees the version that the object has. -/
theorem documentVersion_write {Spec Status : Type} (kind : Kind Spec Status)
    (object : Object Spec Status) :
    documentVersion (object.write kind) = object.metadata.resourceVersion := by
  simp [documentVersion, Json.field?, Object.write_eq, Object.fields, ObjectMeta.write_eq,
    ObjectMeta.fields]

/-- Setting the version of a written object is writing the object with that version. -/
theorem stamp_write {Spec Status : Type} (kind : Kind Spec Status) (object : Object Spec Status)
    (revision : Nat) :
    stamp revision (object.write kind) =
      some ((object.withVersion (Text.writeNat revision)).write kind) := by
  have found : Entries.find? "metadata" (object.fields kind) =
      some (.object object.metadata.fields) := by
    simp [Object.fields, ObjectMeta.write_eq]
  rw [Object.write_eq, stamp, found]
  simp only [ObjectMeta.setField_fields]
  rfl

end Backend

end ResourceApi
