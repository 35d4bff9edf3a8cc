/-
This file says what trimming leaves of a text, and what white space around a text does not change.
-/

import ResourceApi.Text.Blank

namespace ResourceApi.Text

/-- There is no white space at either end. -/
structure Trimmed (characters : List Char) : Prop where
  head : ∀ character, characters.head? = some character → isBlank character = false
  last : ∀ character, characters.getLast? = some character → isBlank character = false

theorem dropWhile_eq_self {passed : Char → Bool} {characters : List Char}
    (kept : ∀ character, characters.head? = some character → passed character = false) :
    characters.dropWhile passed = characters := by
  cases characters with
  | nil => rfl
  | cons character rest =>
      exact List.dropWhile_cons_of_neg (by simp [kept character rfl])

theorem head?_dropWhile {passed : Char → Bool} {characters : List Char} {character : Char}
    (found : (characters.dropWhile passed).head? = some character) : passed character = false := by
  have kept := List.head?_dropWhile_not passed characters
  rwa [found] at kept

theorem trim_eq_self {characters : List Char} (trimmed : Trimmed characters) :
    trim characters = characters := by
  have last (character : Char) (found : characters.reverse.head? = some character) :
      isBlank character = false :=
    trimmed.last character (by rwa [List.head?_reverse] at found)
  rw [trim, dropWhile_eq_self trimmed.head, dropEnd, dropWhile_eq_self last, List.reverse_reverse]

theorem trim_prefix_dropWhile (characters : List Char) :
    trim characters <+: characters.dropWhile isBlank := by
  rw [trim, dropEnd, ← List.reverse_suffix, List.reverse_reverse]
  exact List.dropWhile_suffix _

/-- What is left stands together in the text. -/
theorem trim_infix_self (characters : List Char) : trim characters <:+: characters :=
  (trim_prefix_dropWhile characters).isInfix.trans (List.dropWhile_suffix _).isInfix

theorem trimmed_trim (characters : List Char) : Trimmed (trim characters) where
  head := by
    intro character found
    obtain ⟨rest, equal⟩ := trim_prefix_dropWhile characters
    refine @head?_dropWhile isBlank characters character ?_
    rw [← equal, List.head?_append, found, Option.some_or]
  last := by
    intro character found
    rw [trim, dropEnd, List.getLast?_reverse] at found
    exact head?_dropWhile found

theorem Trimmed.append {first second : List Char} (start : Trimmed first) (rest : Trimmed second) :
    Trimmed (first ++ second) where
  head := by
    intro character found
    rw [List.head?_append, Option.or_eq_some_iff] at found
    exact found.elim (start.head character) fun behind => rest.head character behind.2
  last := by
    intro character found
    rw [List.getLast?_append, Option.or_eq_some_iff] at found
    exact found.elim (rest.last character) fun before => start.last character before.2

theorem trimmed_singleton {character : Char} (solid : isBlank character = false) :
    Trimmed [character] where
  head := fun _ found => Option.some.inj found ▸ solid
  last := fun _ found => Option.some.inj found ▸ solid

/-- A text without white space has none to lose. -/
theorem trimmed_of_all {characters : List Char}
    (kept : ∀ character ∈ characters, isBlank character = false) : Trimmed characters where
  head := fun character found => kept character (List.mem_of_head? found)
  last := fun character found => kept character (List.mem_of_getLast? found)

/-- The outer text is the inner one with any white space before and behind it. -/
def Padded (inner outer : List Char) : Prop :=
  ∃ before after, (∀ character ∈ before, isBlank character = true) ∧
    (∀ character ∈ after, isBlank character = true) ∧ outer = before ++ inner ++ after

theorem Padded.trans {inner middle outer : List Char} (inside : Padded inner middle)
    (around : Padded middle outer) : Padded inner outer := by
  obtain ⟨before, after, beforeBlank, afterBlank, rfl⟩ := inside
  obtain ⟨first, last, firstBlank, lastBlank, rfl⟩ := around
  refine ⟨first ++ before, after ++ last, ?_, ?_, by simp only [List.append_assoc]⟩
  · intro character member
    exact (List.mem_append.1 member).elim (firstBlank character) (beforeBlank character)
  · intro character member
    exact (List.mem_append.1 member).elim (afterBlank character) (lastBlank character)

theorem Padded.length_le {inner outer : List Char} (padded : Padded inner outer) :
    inner.length ≤ outer.length := by
  obtain ⟨before, after, -, -, rfl⟩ := padded
  rw [List.append_assoc, List.length_append, List.length_append]
  omega

/-- What is white space in front is passed over. -/
theorem padded_dropWhile (characters : List Char) :
    Padded (characters.dropWhile isBlank) characters := by
  refine ⟨characters.takeWhile isBlank, [], ?_, nofun, ?_⟩
  · exact List.all_eq_true.1 (List.all_takeWhile ..)
  · rw [List.append_nil, List.takeWhile_append_dropWhile]

theorem padded_dropEnd (characters : List Char) : Padded (dropEnd isBlank characters) characters := by
  obtain ⟨before, after, beforeBlank, afterBlank, same⟩ := padded_dropWhile characters.reverse
  refine ⟨after.reverse, before.reverse, ?_, ?_, ?_⟩
  · simpa using afterBlank
  · simpa using beforeBlank
  · have turned := congrArg List.reverse same
    rwa [List.reverse_reverse, List.reverse_append, List.reverse_append, ← List.append_assoc]
      at turned

theorem padded_trim (characters : List Char) : Padded (trim characters) characters :=
  (padded_dropEnd _).trans (padded_dropWhile characters)

theorem dropEnd_append {characters after : List Char}
    (blank : ∀ character ∈ after, isBlank character = true) :
    dropEnd isBlank (characters ++ after) = dropEnd isBlank characters := by
  have turned : ∀ character ∈ after.reverse, isBlank character = true := by simpa using blank
  rw [dropEnd, List.reverse_append, List.dropWhile_append_of_pos turned, dropEnd]

/-- A text that stands between white space is what trimming leaves. -/
theorem Padded.trim_eq {inner outer : List Char} (padded : Padded inner outer)
    (ends : Trimmed inner) : trim outer = inner := by
  obtain ⟨before, after, beforeBlank, afterBlank, rfl⟩ := padded
  rw [trim, List.append_assoc, List.dropWhile_append_of_pos beforeBlank]
  cases inner with
  | nil =>
      have nothing := @List.dropWhile_append_of_pos _ _ after [] afterBlank
      rw [List.append_nil] at nothing
      rw [List.nil_append, nothing]
      rfl
  | cons first rest =>
      have kept : (first :: rest ++ after).dropWhile isBlank = first :: rest ++ after :=
        dropWhile_eq_self ends.head
      have whole : (first :: rest).dropWhile isBlank = first :: rest := dropWhile_eq_self ends.head
      have trimmed := trim_eq_self ends
      rw [trim, whole] at trimmed
      rw [kept, dropEnd_append afterBlank, trimmed]

theorem trim_eq_iff {inner outer : List Char} :
    trim outer = inner ↔ Trimmed inner ∧ Padded inner outer := by
  constructor
  · rintro rfl
    exact ⟨trimmed_trim outer, padded_trim outer⟩
  · rintro ⟨ends, padded⟩
    exact padded.trim_eq ends

theorem trim_eq_nil_iff {characters : List Char} :
    trim characters = [] ↔ Padded [] characters := by
  rw [trim_eq_iff, and_iff_right ⟨nofun, nofun⟩]

/-- White space around a text does not show once both are trimmed. -/
theorem Padded.trim_congr {inner outer : List Char} (padded : Padded inner outer) :
    trim outer = trim inner :=
  ((padded_trim inner).trans padded).trim_eq (trimmed_trim inner)

/-- Nothing is trimmed beyond a text that has no white space at its ends. -/
theorem trim_append {mark : List Char} (before after : List Char) (present : mark ≠ [])
    (ends : Trimmed mark) :
    trim (before ++ mark ++ after) =
      before.dropWhile isBlank ++ mark ++ dropEnd isBlank after := by
  have begins : (before ++ mark ++ after).dropWhile isBlank =
      before.dropWhile isBlank ++ mark ++ after := by
    rw [List.append_assoc, List.append_assoc, List.dropWhile_append]
    split
    next blank =>
      have nothing : before.dropWhile isBlank = [] := by simpa using blank
      rw [nothing, List.nil_append]
      refine dropWhile_eq_self fun character found => ends.head character ?_
      have first := List.head?_eq_some_head present
      rwa [List.head?_append, first, Option.some_or, ← first] at found
    · rfl
  have finishes (front : List Char) : dropEnd isBlank (front ++ mark ++ after) =
      front ++ mark ++ dropEnd isBlank after := by
    rw [dropEnd, dropEnd, List.reverse_append, List.dropWhile_append]
    split
    next blank =>
      have nothing : after.reverse.dropWhile isBlank = [] := by simpa using blank
      rw [nothing, List.reverse_nil, List.append_nil]
      refine (congrArg List.reverse (dropWhile_eq_self ?_)).trans (List.reverse_reverse _)
      intro character found
      have last := List.getLast?_eq_some_getLast present
      rw [List.head?_reverse, List.getLast?_append, last, Option.some_or, ← last] at found
      exact ends.last character found
    · simp
  rw [trim, begins, finishes]

/-- White space brings in no character that is not white space. -/
theorem Padded.mem_iff {inner outer : List Char} (padded : Padded inner outer) {character : Char}
    (solid : isBlank character = false) : character ∈ outer ↔ character ∈ inner := by
  obtain ⟨before, after, beforeBlank, afterBlank, rfl⟩ := padded
  have notBefore : character ∉ before := fun inside => by
    rw [beforeBlank character inside] at solid
    cases solid
  have notAfter : character ∉ after := fun inside => by
    rw [afterBlank character inside] at solid
    cases solid
  simp [notBefore, notAfter]

/-- A mark without white space stands behind the white space in front. -/
theorem infix_of_infix_append {mark before rest : List Char}
    (solid : ∀ character ∈ mark, isBlank character = false)
    (blank : ∀ character ∈ before, isBlank character = true) (inside : mark <:+: before ++ rest) :
    mark <:+: rest := by
  induction before with
  | nil => exact inside
  | cons character others inductionHypothesis =>
      rw [List.forall_mem_cons] at blank
      rw [List.cons_append, List.infix_cons_iff] at inside
      rcases inside with begins | behind
      · cases mark with
        | nil => exact List.nil_infix
        | cons first further =>
            obtain ⟨rfl, _⟩ := List.cons_prefix_cons.1 begins
            rw [solid first List.mem_cons_self] at blank
            cases blank.1
      · exact inductionHypothesis blank.2 behind

theorem Padded.infix_iff {mark inner outer : List Char} (padded : Padded inner outer)
    (solid : ∀ character ∈ mark, isBlank character = false) :
    mark <:+: outer ↔ mark <:+: inner := by
  obtain ⟨before, after, beforeBlank, afterBlank, rfl⟩ := padded
  constructor
  · intro inside
    rw [List.append_assoc] at inside
    have front := infix_of_infix_append solid beforeBlank inside
    rw [← List.reverse_infix, List.reverse_append] at front
    rw [← List.reverse_infix]
    exact infix_of_infix_append (by simpa using solid) (by simpa using afterBlank) front
  · intro inside
    exact inside.trans ⟨before, after, rfl⟩

end ResourceApi.Text
