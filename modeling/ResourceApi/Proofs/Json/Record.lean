/-
This file shows that the fields of a record are read back as they were written, one kind of field
at a time.
-/

import ResourceApi.Json.Reader
import ResourceApi.Proofs.Dict

namespace ResourceApi.Json

variable {Value : Type}

/-- A field is set behind all fields of other names. -/
theorem setField_append {name : String} {value : Json} {first : List (String × Json)}
    (absent : Entries.find? name first = none) (second : List (String × Json)) :
    setField name value (first ++ second) = first ++ setField name value second := by
  induction first with
  | nil => rfl
  | cons head rest inductionHypothesis =>
      rw [Entries.find?_cons] at absent
      split at absent
      · cases absent
      next other =>
        rw [List.cons_append, setField, if_neg other, inductionHypothesis absent, List.cons_append]

theorem setField_cons (name : String) (value current : Json) (rest : List (String × Json)) :
    setField name value ((name, current) :: rest) = (name, value) :: rest := by
  rw [setField, if_pos rfl]

@[simp] theorem find?_textField (sought name value : String) :
    Entries.find? sought (textField name value) =
      if name = sought ∧ value ≠ "" then some (.text value) else none := by
  unfold textField
  by_cases empty : value = "" <;> by_cases here : name = sought <;>
    simp [empty, here]

@[simp] theorem find?_optionalField (sought name : String) (write : Value → Json)
    (value : Option Value) :
    Entries.find? sought (optionalField name write value) =
      if name = sought then value.map write else none := by
  cases value <;> by_cases here : name = sought <;>
    simp [optionalField, here]

@[simp] theorem find?_listField (sought name : String) (write : Value → Json)
    (values : List Value) :
    Entries.find? sought (listField name write values) =
      if name = sought ∧ values ≠ [] then some (.list (values.map write)) else none := by
  cases values <;> by_cases here : name = sought <;>
    simp [listField, here]

/-- The names of optional fields are written or left out. -/
theorem optionalField_names (name : String) (write : Value → Json) (value : Option Value) :
    ((optionalField name write value).map Prod.fst).Sublist [name] := by
  cases value <;> simp [optionalField]

theorem textField_names (name value : String) :
    ((textField name value).map Prod.fst).Sublist [name] := by
  unfold textField
  split <;> simp

theorem listField_names (name : String) (write : Value → Json) (values : List Value) :
    ((listField name write values).map Prod.fst).Sublist [name] := by
  cases values <;> simp [listField]

theorem asOption_of_ne_null {reader : Reader Value} {json : Json} (notNull : json ≠ .null) :
    asOption reader json = (reader json).map some := by
  cases json <;> first | rfl | exact absurd rfl notNull

namespace Record

/-- An empty text is the default of a text. -/
theorem withDefault_text {record : Record} {name value : String}
    (found : Entries.find? name record.members = if value = "" then none else some (.text value)) :
    record.withDefault name "" asText = some value := by
  rw [withDefault, found]
  by_cases empty : value = ""
  · rw [if_pos empty, empty]
  · rw [if_neg empty]
    rfl

theorem withDefault_option {record : Record} {name : String} {reader : Reader Value}
    {write : Value → Json} {value : Option Value}
    (faithful : ∀ value, reader (write value) = some value) (notNull : ∀ value, write value ≠ .null)
    (found : Entries.find? name record.members = value.map write) :
    record.withDefault name none (asOption reader) = some value := by
  rw [withDefault, found]
  cases value with
  | none => rfl
  | some value =>
      change asOption reader (write value) = some (some value)
      rw [asOption_of_ne_null (notNull value), faithful value, Option.map_some]

/-- An empty list is the default of a list. -/
theorem withDefault_list {record : Record} {name : String} {reader : Reader Value}
    {write : Value → Json} {values : List Value}
    (readable : asList reader (.list (values.map write)) = some values)
    (found : Entries.find? name record.members =
      if values = [] then none else some (.list (values.map write))) :
    record.withDefault name [] (asList reader) = some values := by
  rw [withDefault, found]
  by_cases empty : values = []
  · rw [if_pos empty, empty]
  · rw [if_neg empty]
    exact readable

theorem withDefault_present {record : Record} {name : String} {reader : Reader Value}
    {json : Json} {default value : Value} (readable : reader json = some value)
    (found : Entries.find? name record.members = some json) :
    record.withDefault name default reader = some value := by
  rw [withDefault, found]
  exact readable

end Record

/-- An object with some fields of a record in their order is such a record. -/
theorem asRecord_object {names : List String} {fields : List (String × Json)}
    (different : names.Nodup) (ordered : (fields.map Prod.fst).Sublist names) :
    asRecord names (.object fields) = some ⟨false, fields⟩ := by
  have once : ∀ name ∈ names, (fields.map Prod.fst).count name ≤ 1 := by
    intro name _
    exact List.nodup_iff_count.1 (ordered.nodup different) name
  have all : (names.all fun name => decide ((fields.map Prod.fst).count name ≤ 1)) = true := by
    simpa [List.all_eq_true] using once
  rw [asRecord, if_pos all]

theorem eq_of_asRecord_object {names : List String} {fields : List (String × Json)}
    {record : Record} (readable : asRecord names (.object fields) = some record) :
    record = ⟨false, fields⟩ := by
  rw [asRecord] at readable
  split at readable
  · exact (Option.some.inj readable).symm
  · cases readable

theorem readAll_map {reader : Reader Value} {write : Value → Json}
    (faithful : ∀ value, reader (write value) = some value) (values : List Value) :
    readAll reader (values.map write) = some values := by
  induction values with
  | nil => rfl
  | cons value rest inductionHypothesis =>
      simp only [List.map_cons, readAll, faithful, inductionHypothesis]
      rfl

theorem readEntries_map {reader : Reader Value} {write : Value → Json}
    (faithful : ∀ value, reader (write value) = some value) (entries : List (String × Value)) :
    readEntries reader (entries.map fun entry => (entry.1, write entry.2)) = some entries := by
  induction entries with
  | nil => rfl
  | cons entry rest inductionHypothesis =>
      simp only [List.map_cons, readEntries, faithful, inductionHypothesis]
      rfl

theorem asDict_ofDict {reader : Reader Value} {write : Value → Json}
    (faithful : ∀ value, reader (write value) = some value) (dict : Dict Value) :
    asDict reader (ofDict write dict) = some dict := by
  rw [ofDict, asDict, readEntries_map faithful, Option.map_some, Dict.ofList_entries]

/-- A reader of many members goes on with each member that is read. -/
theorem bind_of_eq_some {Result : Type} {member : Option Value} {value : Value}
    (found : member = some value) (next : Value → Option Result) :
    (member >>= next) = next value := by
  rw [found]
  rfl

theorem asText_text (value : String) : asText (.text value) = some value := rfl

theorem asInt64_ofInt64 (value : Int64) : asInt64 (ofInt64 value) = some value := by
  have lower := value.minValue_le_toInt
  have upper := value.toInt_le
  simp only [asInt64, ofInt64, asWhole, Option.bind_eq_bind, Option.bind_some]
  rw [if_pos ⟨lower, upper⟩, Int64.ofInt_toInt]

theorem asUInt32_whole {value : Int} (inRange : 0 ≤ value ∧ value < UInt32.size) :
    asUInt32 (.whole value) = some (UInt32.ofNat value.toNat) := by
  simp only [asUInt32, asWhole, Option.bind_eq_bind, Option.bind_some]
  exact if_pos inRange

theorem asUInt32_ofUInt32 (value : UInt32) : asUInt32 (ofUInt32 value) = some value := by
  have inRange : 0 ≤ (value.toNat : Int) ∧ (value.toNat : Int) < UInt32.size := by
    have upper : value.toNat < UInt32.size := value.toNat_lt_size
    omega
  rw [ofUInt32, asUInt32_whole inRange, Int.toNat_natCast]
  exact congrArg some UInt32.ofNat_toNat

end ResourceApi.Json
