/-
This file follows the emulated version that the options of a builder ask for. It is reported as a
problem or recorded as a request, unless it is written like a version and too large for one.
-/

import ResourceApi.Proofs.Builder.Preparation
import ResourceApi.Proofs.Builder.Settlement
import ResourceApi.Proofs.Dict
import ResourceApi.Proofs.Version.Reading

namespace ResourceApi

namespace Version

/-- One of the numbers does not fit in a word. -/
def TooLarge (written : String) : Prop :=
  ∃ number ∈ numbers written, UInt32.size ≤ number

theorem not_tooLarge_iff {written : String} :
    ¬ TooLarge written ↔ ∀ number ∈ numbers written, number < UInt32.size := by
  simp only [TooLarge, not_exists, not_and, Nat.not_le]

end Version

namespace Options

theorem isMajorMinor_iff {written : String} :
    isMajorMinor written = true ↔ Version.Plain written ∧
      ((Version.parts written).length = 2 ∨ (Version.parts written).length = 3) := by
  have same : Text.split '.' (Text.dropLead 'v' written.toList) = Version.parts written := rfl
  simp only [isMajorMinor, same, Version.Plain, Bool.and_eq_true, Bool.or_eq_true, beq_iff_eq,
    List.all_eq_true, bne_iff_ne, ne_eq]
  exact and_comm

/-- What the options take for a version is one unless it is too large. -/
theorem parse_of_isMajorMinor {written : String} (accepted : isMajorMinor written = true) :
    (¬ Version.TooLarge written →
      Version.parse written = .ok (.ofNumbers (Version.numbers written))) ∧
    (Version.TooLarge written → Version.parse written = .error (.parse written)) := by
  obtain ⟨plain, count⟩ := isMajorMinor_iff.1 accepted
  rw [plain.parse_eq count]
  exact ⟨fun fits => if_pos (Version.not_tooLarge_iff.1 fits),
    fun large => if_neg fun fits => Version.not_tooLarge_iff.2 fits large⟩

/-- A version is reported where it is not written like one. -/
theorem emulationProblem?_eq_none_iff {options : Options} {written : String}
    (asked : options.emulatedVersion = some written) :
    options.emulationProblem? = none ↔ isMajorMinor written = true := by
  rw [emulationProblem?, asked]
  simp

end Options

namespace Builder

variable {State : Type} {builder : Builder State} {registry : Registry} {group written : String}

/-- The options report what they were asked for, or the registry has a request for it. -/
def Heeded (options : Options) (registry : Registry) (written : String) : Prop :=
  options.emulationProblem? ≠ none ∨
    ∃ version, Version.parse written = .ok version ∧
      registry.emulationRequests.get? options.componentName = some version.majorMinor

/-- A request that cannot be read leaves the registry as it would be without it. -/
theorem settledRegistry_of_unreadable {options : Options} {error : VersionError}
    (settled : builder.settledRegistry options = .ok registry)
    (asked : options.emulatedVersion = some written)
    (unreadable : Version.parse written = .error error) :
    builder.settledRegistry { options with emulatedVersion := none } = .ok registry := by
  have ignored (registered : Registry) : requestEmulation options registered =
      requestEmulation { options with emulatedVersion := none } registered := by
    rw [requestEmulation, asked, Option.map_some, unreadable]
    rfl
  obtain ⟨registered, declared, effect⟩ := settledRegistry_eq_ok_iff.1 settled
  rw [ignored] at effect
  exact settledRegistry_eq_ok_iff.2 ⟨registered, declared, effect⟩

/-- An emulated version is heeded unless one of its numbers is too large. -/
theorem emulation_request_heeded_iff (grouped : builder.groupName = .ok group)
    (listed : builder.groupVersions ≠ [])
    (settled : builder.settledRegistry (builder.settledOptions group) = .ok registry)
    (asked : (builder.settledOptions group).emulatedVersion = some written) :
    (Heeded (builder.settledOptions group) registry written ↔
      (Options.isMajorMinor written = true → ¬ Version.TooLarge written)) ∧
    (Heeded (builder.settledOptions group) registry written →
      (∀ version, Version.parse written ≠ .ok version) →
      ∀ state, ∃ messages,
        (OptionsError.invalid "emulatedVersion"
          ("\"" ++ written ++ "\" is not of form major.minor")).message ∈ messages ∧
        builder.build state = (.error (.invalid messages), state)) ∧
    (¬ Heeded (builder.settledOptions group) registry written →
      builder.settledRegistry { builder.settledOptions group with emulatedVersion := none } =
        .ok registry) := by
  have reported := Options.emulationProblem?_eq_none_iff asked
  have heeded : Heeded (builder.settledOptions group) registry written ↔
      (Options.isMajorMinor written = true → ¬ Version.TooLarge written) := by
    constructor
    · rintro (problem | ⟨version, read, _⟩) accepted
      · exact absurd (reported.2 accepted) problem
      · intro large
        rw [(Options.parse_of_isMajorMinor accepted).2 large] at read
        cases read
    · intro fits
      by_cases accepted : Options.isMajorMinor written = true
      · have read := (Options.parse_of_isMajorMinor accepted).1 (fits accepted)
        refine Or.inr ⟨_, read, ?_⟩
        rw [emulationRequests_of_settledRegistry settled asked, read, Dict.get?_insert, if_pos rfl]
      · exact Or.inl fun none => accepted (reported.1 none)
  refine ⟨heeded, ?_, ?_⟩
  · rintro (problem | ⟨version, read, _⟩) unreadable state
    · have found : (builder.settledOptions group).emulationProblem? =
          some (.invalid "emulatedVersion"
            ("\"" ++ written ++ "\" is not of form major.minor")) := by
        have refused : ¬ Options.isMajorMinor written = true := fun accepted =>
          problem (reported.2 accepted)
        rw [Options.emulationProblem?, asked]
        exact if_neg refused
      refine build_of_reported grouped listed settled ?_ state
      refine List.mem_append_left _ (List.mem_map_of_mem ?_)
      simp [Options.problems, found]
    · exact absurd read (unreadable version)
  · intro unheeded
    obtain ⟨accepted, large⟩ := Classical.not_imp.1 fun fits => unheeded (heeded.2 fits)
    exact settledRegistry_of_unreadable settled asked
      ((Options.parse_of_isMajorMinor accepted).2 (Classical.not_not.1 large))

section Samples

/-- This builder has one group version and asks for the emulated version. -/
def askingFor (written : String) : Builder Unit where
  component := "foo"
  groupVersions := [⟨"foo.example.com", "v1"⟩]
  options := some { emulatedVersion := some written }

/-- The server is built although the version is dropped. -/
theorem request_dropped_if_too_large :
    (∃ messages, (askingFor "one").build () = (.error (.invalid messages), ())) ∧
    (∃ server, (askingFor "1.4294967296").build () = (.ok server, ())) ∧
    ∃ registry, (askingFor "1.4294967296").settledRegistry
        ((askingFor "1.4294967296").settledOptions "foo.example.com") = .ok registry ∧
      ¬ Heeded ((askingFor "1.4294967296").settledOptions "foo.example.com") registry
        "1.4294967296" ∧
      registry.emulationRequests = .empty := by
  obtain ⟨one, reported⟩ : ∃ registry, (askingFor "one").settledRegistry
      ((askingFor "one").settledOptions "foo.example.com") = .ok registry := ⟨_, rfl⟩
  obtain ⟨two, dropped⟩ : ∃ registry, (askingFor "1.4294967296").settledRegistry
      ((askingFor "1.4294967296").settledOptions "foo.example.com") = .ok registry := ⟨_, rfl⟩
  refine ⟨?_, ⟨_, rfl⟩, two, dropped, ?_, ?_⟩
  · obtain ⟨heeded, refuses, _⟩ :=
      emulation_request_heeded_iff rfl (List.cons_ne_nil _ _) reported rfl
    have unreadable : Version.parse "one" = .error (.parse "one") := rfl
    obtain ⟨messages, _, built⟩ := refuses (heeded.2 fun accepted => absurd accepted (by decide))
      (fun version read => by rw [unreadable] at read; cases read) ()
    exact ⟨messages, built⟩
  · have heeded := (emulation_request_heeded_iff rfl (List.cons_ne_nil _ _) dropped rfl).1
    intro kept
    exact heeded.1 kept (by decide) ⟨4294967296, by decide, Nat.le_refl _⟩
  · exact emulationRequests_of_settledRegistry dropped rfl

end Samples

end Builder

end ResourceApi
