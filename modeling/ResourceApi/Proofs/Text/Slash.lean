/-
This file shows that slashes keep the parts of a text apart.
-/

import ResourceApi.Text.Split

namespace ResourceApi.Text

/-- The first slash ends the first part. -/
theorem append_slash_inj {first second : List Char} {firstRest secondRest : List Char}
    (firstPart : '/' ∉ first) (secondPart : '/' ∉ second)
    (same : first ++ '/' :: firstRest = second ++ '/' :: secondRest) :
    first = second ∧ firstRest = secondRest := by
  induction first generalizing second with
  | nil =>
      cases second with
      | nil => exact ⟨rfl, by simpa using same⟩
      | cons character rest =>
          have slash : '/' = character := by simpa using congrArg List.head? same
          exact absurd (List.mem_cons.2 (Or.inl slash)) secondPart
  | cons character rest inductionHypothesis =>
      cases second with
      | nil =>
          have slash : character = '/' := by simpa using congrArg List.head? same
          exact absurd (List.mem_cons.2 (Or.inl slash.symm)) firstPart
      | cons other others =>
          obtain ⟨sameHead, sameTail⟩ := List.cons.inj same
          have tail := inductionHypothesis (fun inside => firstPart (List.mem_cons_of_mem _ inside))
            (fun inside => secondPart (List.mem_cons_of_mem _ inside)) sameTail
          exact ⟨by rw [sameHead, tail.1], tail.2⟩

theorem startsWith_iff (text start : String) :
    startsWith text start = true ↔ ∃ rest, text.toList = start.toList ++ rest := by
  rw [startsWith, List.isPrefixOf_iff_prefix]
  constructor
  · rintro ⟨rest, equal⟩
    exact ⟨rest, equal.symm⟩
  · rintro ⟨rest, equal⟩
    exact ⟨rest, equal.symm⟩

/-- Texts below one root begin with the same part exactly where the parts are equal. -/
theorem startsWith_part_iff {root first second : String} (rest : String)
    (firstPart : '/' ∉ first.toList) (secondPart : '/' ∉ second.toList) :
    startsWith (root ++ "/" ++ first ++ "/" ++ rest) (root ++ "/" ++ second ++ "/") = true ↔
      first = second := by
  have slash : "/".toList = ['/'] := rfl
  rw [startsWith_iff]
  simp only [String.toList_append, slash, List.append_assoc, List.append_cancel_left_eq,
    List.cons_append, List.nil_append, List.cons.injEq, true_and]
  constructor
  · rintro ⟨tail, equal⟩
    exact String.toList_injective (append_slash_inj firstPart secondPart equal).1
  · rintro rfl
    exact ⟨rest.toList, rfl⟩

theorem startsWith_self (text : String) : startsWith text text = true :=
  (startsWith_iff text text).2 ⟨[], by simp⟩

theorem startsWith_trans {text start root : String} (begins : startsWith text start = true)
    (further : startsWith start root = true) : startsWith text root = true := by
  obtain ⟨rest, equal⟩ := (startsWith_iff text start).1 begins
  obtain ⟨middle, startEqual⟩ := (startsWith_iff start root).1 further
  exact (startsWith_iff text root).2 ⟨middle ++ rest, by rw [equal, startEqual, List.append_assoc]⟩

/-- No text begins with both. -/
def Apart (first second : String) : Prop :=
  ∀ text, startsWith text first = true → startsWith text second = false

/-- Different parts below one root keep all that is below them apart. -/
theorem apart_of_parts {root first second : String} (firstPart : '/' ∉ first.toList)
    (secondPart : '/' ∉ second.toList) (different : first ≠ second) :
    Apart (root ++ "/" ++ first ++ "/") (root ++ "/" ++ second ++ "/") := by
  intro text begins
  obtain ⟨rest, equal⟩ := (startsWith_iff _ _).1 begins
  have whole : text = root ++ "/" ++ first ++ "/" ++ String.ofList rest :=
    String.toList_injective (by simp only [equal, String.toList_append, String.toList_ofList])
  rw [whole, Bool.eq_false_iff, ne_eq, startsWith_part_iff _ firstPart secondPart]
  exact different

end ResourceApi.Text
