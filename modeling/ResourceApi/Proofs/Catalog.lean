/-
This file shows that the sample kinds lose nothing when their objects are written and read.
-/

import ResourceApi.Catalog
import ResourceApi.Proofs.Json.Record

namespace ResourceApi.Catalog

theorem MessageSpec.read_write (spec : MessageSpec) : read spec.write = some spec := rfl

theorem NoStatus.read_write (status : NoStatus) : read status.write = some status := rfl

theorem GadgetSpec.read_write (spec : GadgetSpec) : read spec.write = some spec := by
  have record : Json.asRecord ["size"] spec.write =
      some ⟨false, [("size", Json.ofUInt32 spec.size)]⟩ :=
    Json.asRecord_object (by decide) (List.Sublist.refl _)
  have size : Json.Record.required ⟨false, [("size", Json.ofUInt32 spec.size)]⟩ "size"
      Json.asUInt32 = some spec.size := by
    rw [Json.Record.required, Entries.find?_cons, if_pos rfl, Option.bind_some,
      Json.asUInt32_ofUInt32]
  have steps : read spec.write = (Json.asRecord ["size"] spec.write).bind fun record =>
      (record.required "size" Json.asUInt32).bind fun size => some ⟨size⟩ := rfl
  rw [steps, record, Option.bind_some, size, Option.bind_some]

theorem GadgetStatus.read_write (status : GadgetStatus) : read status.write = some status := rfl

theorem WidgetSpec.read_write (spec : WidgetSpec) : read spec.write = some spec := by
  have record : Json.asRecord ["value", "tags", "count", "flag"] spec.write =
      some ⟨false, [("value", .text spec.value), ("tags", Json.texts spec.tags),
        ("count", Json.ofOption Json.ofInt64 spec.count), ("flag", .bool spec.flag)]⟩ :=
    Json.asRecord_object (by decide) (List.Sublist.refl _)
  have tags : Json.asList Json.asText (Json.texts spec.tags) = some spec.tags :=
    Json.readAll_map Json.asText_text spec.tags
  have count : Json.asOption Json.asInt64 (Json.ofOption Json.ofInt64 spec.count) =
      some spec.count := by
    cases spec.count with
    | none => rfl
    | some count => exact congrArg (Option.map some) (Json.asInt64_ofInt64 count)
  simp [read, record, Json.Record.required, Json.Record.withDefault, Json.asText_text, tags, count,
    Json.asBool]

theorem WidgetStatus.read_write (status : WidgetStatus) : read status.write = some status := rfl

theorem MoverSpec.read_write (spec : MoverSpec) : read spec.write = some spec := rfl

theorem MoverStatus.read_write (status : MoverStatus) : read status.write = some status := rfl

/-- All kinds that carry a message are written and read in the same way. -/
theorem faithful_of_message {kind : Kind MessageSpec NoStatus}
    (writeSpec : kind.writeSpec = MessageSpec.write) (readSpec : kind.readSpec = MessageSpec.read)
    (writeStatus : kind.writeStatus = NoStatus.write)
    (readStatus : kind.readStatus = NoStatus.read) : kind.Faithful := by
  rw [Kind.Faithful, writeSpec, readSpec, writeStatus, readStatus]
  exact ⟨MessageSpec.read_write, NoStatus.read_write⟩

theorem gadget_faithful : gadget.Faithful :=
  ⟨GadgetSpec.read_write, GadgetStatus.read_write⟩

theorem widget_faithful : widget.Faithful :=
  ⟨WidgetSpec.read_write, WidgetStatus.read_write⟩

theorem mover_faithful : mover.Faithful :=
  ⟨MoverSpec.read_write, MoverStatus.read_write⟩

/-- Every sample kind reads what it writes. -/
theorem entries_faithful : ∀ entry ∈ entries, entry.kind.Faithful := by
  intro entry listed
  simp only [entries, List.mem_cons, List.not_mem_nil, or_false] at listed
  rcases listed with rfl | rfl | rfl | rfl | rfl | rfl | rfl | rfl | rfl | rfl
  case inr.inr.inr.inr.inr.inr.inr.inl => exact gadget_faithful
  case inr.inr.inr.inr.inr.inr.inr.inr.inl => exact widget_faithful
  case inr.inr.inr.inr.inr.inr.inr.inr.inr => exact mover_faithful
  all_goals exact faithful_of_message rfl rfl rfl rfl

end ResourceApi.Catalog
