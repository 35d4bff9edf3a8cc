/-
This file says where texts are cut: at every separator, or once at the first place of a mark.
-/

import ResourceApi.Text.Split

namespace ResourceApi.Text

section Pieces

variable {separator : Char} {piece rest : List Char}

theorem split_cons_separator (separator : Char) (rest : List Char) :
    split separator (separator :: rest) = [] :: split separator rest := by
  rw [split, if_pos rfl]

theorem split_ne_nil (separator : Char) (characters : List Char) :
    split separator characters ≠ [] := by
  cases characters with
  | nil => simp [split]
  | cons character rest =>
      rw [split]
      split
      · simp
      · split <;> simp

/-- A separator ends one piece and begins the next. -/
theorem split_append (separator : Char) (first second : List Char) :
    split separator (first ++ separator :: second) =
      split separator first ++ split separator second := by
  induction first with
  | nil => exact split_cons_separator separator second
  | cons character rest inductionHypothesis =>
      rw [List.cons_append, split, split, inductionHypothesis]
      split
      · rfl
      · cases pieces : split separator rest with
        | nil => exact absurd pieces (split_ne_nil separator rest)
        | cons piece others => rfl

theorem split_of_not_mem (absent : separator ∉ piece) : split separator piece = [piece] := by
  induction piece with
  | nil => rfl
  | cons character others inductionHypothesis =>
      have here : ¬ character = separator := fun same => absent (by simp [same])
      have behind : separator ∉ others := fun inside => absent (List.mem_cons_of_mem _ inside)
      rw [split, if_neg here, inductionHypothesis behind]

/-- What stands before the first separator is the first piece. -/
theorem split_append_separator (absent : separator ∉ piece) :
    split separator (piece ++ separator :: rest) = piece :: split separator rest := by
  rw [split_append, split_of_not_mem absent, List.singleton_append]

theorem not_mem_of_mem_split {characters : List Char}
    (inside : piece ∈ split separator characters) : separator ∉ piece := by
  induction characters generalizing piece with
  | nil =>
      rw [split, List.mem_singleton] at inside
      simp [inside]
  | cons character rest inductionHypothesis =>
      rw [split] at inside
      split at inside
      · rcases List.mem_cons.1 inside with rfl | further
        · simp
        · exact inductionHypothesis further
      next other =>
        cases pieces : split separator rest with
        | nil => exact absurd pieces (split_ne_nil separator rest)
        | cons first others =>
            rw [pieces] at inside inductionHypothesis
            rcases List.mem_cons.1 inside with rfl | further
            · rw [List.mem_cons, not_or]
              exact ⟨Ne.symm other, inductionHypothesis List.mem_cons_self⟩
            · exact inductionHypothesis (List.mem_cons_of_mem _ further)

/-- Every character stands in a piece or separates two of them. -/
theorem mem_split_of_mem {characters : List Char} {character : Char}
    (inside : character ∈ characters) :
    character = separator ∨ ∃ piece ∈ split separator characters, character ∈ piece := by
  induction characters with
  | nil => cases inside
  | cons head rest inductionHypothesis =>
      rw [split]
      split
      next same =>
        rcases List.mem_cons.1 inside with rfl | behind
        · exact Or.inl same
        · refine (inductionHypothesis behind).imp_right ?_
          rintro ⟨piece, listed, found⟩
          exact ⟨piece, List.mem_cons_of_mem _ listed, found⟩
      next other =>
        cases pieces : split separator rest with
        | nil => exact absurd pieces (split_ne_nil separator rest)
        | cons first others =>
            rw [pieces] at inductionHypothesis
            rcases List.mem_cons.1 inside with rfl | behind
            · exact Or.inr ⟨character :: first, List.mem_cons_self, List.mem_cons_self⟩
            · refine (inductionHypothesis behind).imp_right ?_
              rintro ⟨piece, listed, found⟩
              rcases List.mem_cons.1 listed with rfl | further
              · exact ⟨head :: piece, List.mem_cons_self, List.mem_cons_of_mem _ found⟩
              · exact ⟨piece, List.mem_cons_of_mem _ further, found⟩

/-- Pieces that are joined by a separator are told apart again. -/
theorem split_join {mark : String} (single : mark.toList = [separator]) {pieces : List String}
    (present : pieces ≠ []) (absent : ∀ piece ∈ pieces, separator ∉ piece.toList) :
    split separator (join mark pieces).toList = pieces.map String.toList := by
  induction pieces with
  | nil => exact absurd rfl present
  | cons first rest inductionHypothesis =>
      have firstAbsent := absent first List.mem_cons_self
      cases rest with
      | nil => exact split_of_not_mem firstAbsent
      | cons second others =>
          have tail := inductionHypothesis (by simp) fun piece inside =>
            absent piece (List.mem_cons_of_mem _ inside)
          have joined : (join mark (first :: second :: others)).toList =
              first.toList ++ separator :: (join mark (second :: others)).toList := by
            rw [join, String.toList_append, String.toList_append, single, List.append_assoc]
            · rfl
            · simp
          rw [joined, split_append_separator firstAbsent, tail]
          rfl

end Pieces

theorem dropLead_of_not_mem {lead : Char} {characters : List Char} (absent : lead ∉ characters) :
    dropLead lead characters = characters := by
  cases characters with
  | nil => rfl
  | cons character rest =>
      have other : ¬ character = lead := fun same => absent (by simp [same])
      rw [dropLead, if_neg other]

section Marks

variable {mark characters before after : List Char}

theorem eq_of_splitOnce (found : splitOnce mark characters = some (before, after)) :
    characters = before ++ mark ++ after := by
  induction characters generalizing before with
  | nil => cases found
  | cons character rest inductionHypothesis =>
      rw [splitOnce] at found
      split at found
      next begins =>
        cases found
        obtain ⟨tail, equal⟩ := List.isPrefixOf_iff_prefix.1 begins
        rw [← equal, List.drop_left, List.nil_append]
      · obtain ⟨⟨first, second⟩, further, pair⟩ := Option.map_eq_some_iff.1 found
        cases pair
        rw [inductionHypothesis further]
        rfl

/-- The mark is missed only where it does not stand. -/
theorem splitOnce_eq_none_iff (present : mark ≠ []) :
    splitOnce mark characters = none ↔ ¬ mark <:+: characters := by
  induction characters with
  | nil => simpa [splitOnce] using present
  | cons character rest inductionHypothesis =>
      rw [splitOnce, List.infix_cons_iff, not_or, ← inductionHypothesis,
        ← List.isPrefixOf_iff_prefix]
      split
      next begins => simp [begins]
      next begins => simp [begins]

theorem splitOnce_eq_none_of_not_mem {character : Char} (marks : character ∈ mark)
    (absent : character ∉ characters) : splitOnce mark characters = none :=
  (splitOnce_eq_none_iff (List.ne_nil_of_mem marks)).2 fun inside =>
    absent (inside.sublist.subset marks)

theorem splitOnce_of_begins (present : mark ≠ []) (after : List Char) :
    splitOnce mark (mark ++ after) = some ([], after) := by
  cases mark with
  | nil => exact absurd rfl present
  | cons first rest =>
      have begins : (first :: rest).isPrefixOf (first :: (rest ++ after)) = true :=
        List.isPrefixOf_iff_prefix.2 ⟨after, rfl⟩
      rw [List.cons_append, splitOnce, if_pos begins, ← List.cons_append, List.drop_left]

/-- What does not hold the first character of the mark is passed over. -/
theorem splitOnce_append {first : Char} {rest : List Char} (absent : first ∉ before) :
    splitOnce (first :: rest) (before ++ after) =
      (splitOnce (first :: rest) after).map fun pair => (before ++ pair.1, pair.2) := by
  induction before with
  | nil => simp
  | cons character others inductionHypothesis =>
      have here : first ≠ character := fun same => absent (by simp [same])
      have behind : first ∉ others := fun inside => absent (List.mem_cons_of_mem _ inside)
      have passed : ¬ (first :: rest).isPrefixOf (character :: (others ++ after)) = true := by
        simp [here]
      rw [List.cons_append, splitOnce, if_neg passed, inductionHypothesis behind, Option.map_map]
      rfl

/-- The text is cut at the first place of the mark. -/
theorem splitOnce_first {first : Char} {rest : List Char} (absent : first ∉ before)
    (after : List Char) :
    splitOnce (first :: rest) (before ++ (first :: rest ++ after)) = some (before, after) := by
  rw [splitOnce_append absent, splitOnce_of_begins (by simp)]
  simp

end Marks

end ResourceApi.Text
