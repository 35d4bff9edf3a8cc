/-
This file shows that the text of a version is read as that version, also with a letter v in front and
with white space around it. So a text that is read can be replaced by the one that is written for it.
-/

import ResourceApi.Proofs.Version.Reading

namespace ResourceApi.Version

/-- These are the numbers that stand in the text of a version. -/
def figures (version : Version) : List Nat :=
  if version.patch = 0 then [version.major.toNat, version.minor.toNat]
  else [version.major.toNat, version.minor.toNat, version.patch.toNat]

section Figures

variable (version : Version)

theorem length_figures : version.figures.length = 2 ∨ version.figures.length = 3 := by
  unfold figures
  split
  · exact Or.inl rfl
  · exact Or.inr rfl

theorem figures_lt : ∀ number ∈ version.figures, number < UInt32.size := by
  have major := version.major.toNat_lt
  have minor := version.minor.toNat_lt
  have patch := version.patch.toNat_lt
  unfold figures
  split
  · simp [major, minor]
  · simp [major, minor, patch]

theorem ofNumbers_figures : ofNumbers version.figures = version := by
  obtain ⟨major, minor, patch⟩ := version
  unfold figures
  split
  next whole =>
    subst whole
    simp [ofNumbers]
  · simp [ofNumbers]

theorem display_eq_join :
    version.display = Text.join "." (version.figures.map Text.writeNat) := by
  unfold display figures
  split
  · simp [Text.join, String.append_assoc]
  · simp [Text.join, String.append_assoc]

end Figures

/-- The dots in the text of a version separate its numbers. -/
theorem split_display (version : Version) :
    Text.split '.' version.display.toList = version.figures.map (Nat.toDigits 10) := by
  have present : version.figures.map Text.writeNat ≠ [] := by
    rcases version.length_figures with two | three
    · simp [← List.length_eq_zero_iff, two]
    · simp [← List.length_eq_zero_iff, three]
  have absent : ∀ piece ∈ version.figures.map Text.writeNat, '.' ∉ piece.toList := by
    intro piece listed dot
    obtain ⟨number, _, rfl⟩ := List.mem_map.1 listed
    rw [Text.writeNat_toList] at dot
    exact absurd (Text.isDigit_of_mem_toDigits dot) (by decide)
  rw [display_eq_join, Text.split_join rfl present absent, List.map_map]
  exact List.map_congr_left fun number _ => Text.writeNat_toList number

section Lead

variable (version : Version) {lead : String} (single : lead = "" ∨ lead = "v")

include single

/-- The letter in front is no part of the text. -/
theorem parts_display :
    parts (lead ++ version.display) = version.figures.map (Nat.toDigits 10) := by
  rw [parts, String.toList_append, ← split_display]
  rcases single with rfl | rfl
  · have absent : 'v' ∉ version.display.toList := by
      intro letter
      rcases @Text.mem_split_of_mem '.' _ _ letter with dot | ⟨piece, listed, inside⟩
      · exact absurd dot (by decide)
      · rw [split_display] at listed
        obtain ⟨number, _, rfl⟩ := List.mem_map.1 listed
        exact absurd (Text.isDigit_of_mem_toDigits inside) (by decide)
    exact congrArg _ (Text.dropLead_of_not_mem absent)
  · rfl

theorem plain_display : Plain (lead ++ version.display) := by
  intro part listed
  rw [parts_display version single] at listed
  obtain ⟨number, _, rfl⟩ := List.mem_map.1 listed
  exact ⟨Nat.toDigits_ne_nil, List.all_eq_true.2 fun _ => Text.isDigit_of_mem_toDigits⟩

theorem numbers_display : numbers (lead ++ version.display) = version.figures := by
  rw [numbers, parts_display version single, List.map_map]
  exact (List.map_congr_left fun number _ => Text.digitsValue_toDigits number).trans (List.map_id' _)

theorem parse_display : parse (lead ++ version.display) = .ok version := by
  have length : (parts (lead ++ version.display)).length = 2 ∨
      (parts (lead ++ version.display)).length = 3 := by
    rw [parts_display version single, List.length_map]
    exact version.length_figures
  rw [(plain_display version single).parse_eq length, numbers_display version single,
    if_pos version.figures_lt, ofNumbers_figures]

end Lead

/-- White space around a text does not change what is read. -/
theorem parse_of_padded {inner outer : String} {version : Version}
    (padded : Text.Padded inner.toList outer.toList) (read : parse inner = .ok version) :
    parse outer = .ok version := by
  rw [parse, padded.trim_congr]
  rw [parse] at read
  split at read
  · exact read
  · exact read
  · cases read

/-- A written version is read back, and what is read is written as before. -/
theorem written_version_read_back :
    (∀ (version : Version) (lead written : String), lead = "" ∨ lead = "v" →
      Text.Padded (lead ++ version.display).toList written.toList →
      parse written = .ok version) ∧
    ∀ (version : Version) (written : String), parse written = .ok version →
      parse version.display = .ok version ∧
      (parse version.display).map display = .ok version.display := by
  refine ⟨?_, ?_⟩
  · intro version lead written single padded
    exact parse_of_padded padded (parse_display version single)
  · intro version written _
    have again := parse_display version (Or.inl rfl)
    rw [String.empty_append] at again
    refine ⟨again, ?_⟩
    rw [again]
    rfl

theorem spacious_version_read_back :
    parse "\n v1.20.3\t" = .ok ⟨1, 20, 3⟩ ∧
    parse " +01.020.0" = .ok ⟨1, 20, 0⟩ ∧
    parse (display ⟨1, 20, 0⟩) = .ok ⟨1, 20, 0⟩ := by
  obtain ⟨reads, again⟩ := written_version_read_back
  have padded : Text.Padded ("v" ++ display ⟨1, 20, 3⟩).toList "\n v1.20.3\t".toList :=
    ⟨['\n', ' '], ['\t'], List.all_eq_true.1 rfl, List.all_eq_true.1 rfl, by decide +kernel⟩
  have accepted : parse " +01.020.0" = .ok ⟨1, 20, 0⟩ := rfl
  exact ⟨reads _ "v" _ (Or.inr rfl) padded, accepted, (again _ _ accepted).1⟩

end ResourceApi.Version
