/-
This file says how a selector is made up of its terms: they are read one after the other, and a set
is selected if it meets each of them.
-/

import ResourceApi.Proofs.Selector

namespace ResourceApi

open Text (Padded)

namespace Selector

/-- The requirements of the second selector come after those of the first. -/
def followedBy (first second : Selector) : Selector :=
  ⟨first.requirements ++ second.requirements⟩

/-- The text is accepted, and the set meets what it asks for. -/
def Selects (written : String) (set : Dict String) : Prop :=
  ∃ selector, parse written = .ok selector ∧ selector.holds set = true

/-- Between the commas stand the terms in their order, and pieces that are white space only. -/
inductive Pieces : List Term → List (List Char) → Prop
  | nil : Pieces [] []
  | blank {terms : List Term} {piece : List Char} {pieces : List (List Char)}
      (empty : Padded [] piece) (rest : Pieces terms pieces) : Pieces terms (piece :: pieces)
  | term {term : Term} {terms : List Term} {piece : List Char} {pieces : List (List Char)}
      (written : term.Writes piece) (rest : Pieces terms pieces) :
      Pieces (term :: terms) (piece :: pieces)

/-- The text is these terms with any white space and any empty terms. -/
def Writes (terms : List Term) (written : String) : Prop :=
  Pieces terms (Text.split ',' written.toList)

section Terms

variable {written first second : List Char} {terms : List (List Char)}

theorem terms_append (first second : List Char) :
    Selector.terms (first ++ ',' :: second) = Selector.terms first ++ Selector.terms second := by
  rw [Selector.terms, Text.split_append, List.map_append, List.filter_append]
  rfl

/-- What stands between two commas is one term or none. -/
theorem terms_of_not_mem (single : ',' ∉ written) :
    Selector.terms written = [Text.trim written].filter (· ≠ []) := by
  rw [Selector.terms, Text.split_of_not_mem single, List.map_singleton]

theorem mem_terms_iff {term : List Char} :
    term ∈ Selector.terms written ↔
      ∃ piece ∈ Text.split ',' written, term ∈ Selector.terms piece := by
  have each : ∀ piece ∈ Text.split ',' written,
      (term ∈ Selector.terms piece ↔ Text.trim piece = term ∧ term ≠ []) := by
    intro piece inside
    rw [terms_of_not_mem (Text.not_mem_of_mem_split inside), List.mem_filter, List.mem_singleton,
      decide_eq_true_eq, eq_comm]
  rw [Selector.terms, List.mem_filter, List.mem_map, decide_eq_true_eq]
  constructor
  · rintro ⟨⟨piece, inside, same⟩, present⟩
    exact ⟨piece, inside, (each piece inside).2 ⟨same, present⟩⟩
  · rintro ⟨piece, inside, found⟩
    obtain ⟨same, present⟩ := (each piece inside).1 found
    exact ⟨⟨piece, inside, same⟩, present⟩

theorem terms_eq_nil (blank : Padded [] written) : Selector.terms written = [] := by
  have solid : Text.isBlank ',' = false := by decide
  have single : ',' ∉ written := mt (blank.mem_iff solid).1 List.not_mem_nil
  rw [terms_of_not_mem single, Text.trim_eq_nil_iff.2 blank]
  rfl

end Terms

theorem parseTerms_append (first second : List (List Char)) :
    parseTerms (first ++ second) =
      (parseTerms first).bind fun requirements => (parseTerms second).map (requirements ++ ·) := by
  induction first with
  | nil =>
      rw [List.nil_append, parseTerms]
      cases parseTerms second <;> rfl
  | cons term rest inductionHypothesis =>
      rw [List.cons_append, parseTerms, parseTerms, inductionHypothesis]
      cases Requirement.parse term with
      | error error => rfl
      | ok requirement =>
          cases parseTerms rest with
          | error error => rfl
          | ok requirements => cases parseTerms second <;> rfl

/-- All terms are accepted with requirements of one kind if each term is. -/
theorem parseTerms_all_iff {wanted : Requirement → Prop} {terms : List (List Char)} :
    (∃ requirements, parseTerms terms = .ok requirements ∧
        ∀ requirement ∈ requirements, wanted requirement) ↔
      ∀ term ∈ terms, ∃ requirement, Requirement.parse term = .ok requirement ∧
        wanted requirement := by
  induction terms with
  | nil => simp [parseTerms]
  | cons term rest inductionHypothesis =>
      rw [List.forall_mem_cons, ← inductionHypothesis, parseTerms]
      cases Requirement.parse term with
      | error error => simp
      | ok requirement =>
          cases parseTerms rest with
          | error error => simp [Except.map]
          | ok requirements => simp [Except.map]

theorem parse_ok_iff {written : String} {selector : Selector} :
    parse written = .ok selector ↔
      parseTerms (terms written.toList) = .ok selector.requirements := by
  rw [parse]
  cases parseTerms (terms written.toList) with
  | error error => simp [Except.map]
  | ok requirements => cases selector; simp [Except.map]

theorem parse_congr {written other : String}
    (same : terms other.toList = terms written.toList) : parse other = parse written := by
  rw [parse, parse, same]

theorem terms_join (first second : String) :
    terms (first ++ "," ++ second).toList = terms first.toList ++ terms second.toList := by
  rw [String.toList_append, String.toList_append, List.append_assoc]
  exact terms_append first.toList second.toList

/-- The first error stops the reading. -/
theorem parse_join (first second : String) :
    parse (first ++ "," ++ second) =
      (parse first).bind fun one => (parse second).map one.followedBy := by
  rw [parse, parse, parse, terms_join, parseTerms_append]
  cases parseTerms (terms first.toList) with
  | error error => rfl
  | ok requirements => cases parseTerms (terms second.toList) <;> rfl

theorem selects_iff {written : String} {set : Dict String} :
    Selects written set ↔ ∀ term ∈ terms written.toList,
      ∃ requirement, Requirement.parse term = .ok requirement ∧ requirement.holds set = true := by
  rw [← parseTerms_all_iff]
  constructor
  · rintro ⟨selector, parsed, selected⟩
    exact ⟨selector.requirements, parse_ok_iff.1 parsed, List.all_eq_true.1 selected⟩
  · rintro ⟨requirements, parsed, met⟩
    exact ⟨⟨requirements⟩, parse_ok_iff.2 parsed, List.all_eq_true.2 met⟩

theorem exists_parse_iff {written : String} :
    (∃ selector, parse written = .ok selector) ↔
      ∀ term ∈ terms written.toList, ∃ requirement, Requirement.parse term = .ok requirement := by
  have accepted := @parseTerms_all_iff (fun _ => True) (terms written.toList)
  simp only [implies_true, and_true] at accepted
  rw [← accepted]
  constructor
  · rintro ⟨selector, parsed⟩
    exact ⟨selector.requirements, parse_ok_iff.1 parsed⟩
  · rintro ⟨requirements, parsed⟩
    exact ⟨⟨requirements⟩, parse_ok_iff.2 parsed⟩

theorem holds_iff_selects {written : String} {selector : Selector}
    (parsed : parse written = .ok selector) (set : Dict String) :
    selector.holds set = true ↔ Selects written set := by
  constructor
  · exact fun selected => ⟨selector, parsed, selected⟩
  · rintro ⟨same, again, selected⟩
    rw [parsed] at again
    exact Except.ok.inj again ▸ selected

/-- Every term is read on its own, so a text selects what all its pieces select. -/
theorem selects_iff_pieces {written : String} {set : Dict String} :
    Selects written set ↔
      ∀ piece ∈ Text.split ',' written.toList, Selects (String.ofList piece) set := by
  simp only [selects_iff, String.toList_ofList]
  constructor
  · intro each piece inside term found
    exact each term (mem_terms_iff.2 ⟨piece, inside, found⟩)
  · intro each term found
    obtain ⟨piece, inside, own⟩ := mem_terms_iff.1 found
    exact each piece inside term own

/-- The order of the terms and their repetition are not seen. -/
theorem exists_same_holds {written other : String} {selector : Selector}
    (parsed : parse written = .ok selector)
    (same : ∀ term, term ∈ terms other.toList ↔ term ∈ terms written.toList) :
    ∃ shuffled, parse other = .ok shuffled ∧ ∀ set, shuffled.holds set = selector.holds set := by
  have accepted := exists_parse_iff.1 ⟨selector, parsed⟩
  obtain ⟨shuffled, again⟩ : ∃ shuffled, parse other = .ok shuffled :=
    exists_parse_iff.2 fun term found => accepted term ((same term).1 found)
  refine ⟨shuffled, again, fun set => ?_⟩
  rw [Bool.eq_iff_iff, holds_iff_selects again, holds_iff_selects parsed, selects_iff, selects_iff]
  simp only [same]

/-- What the pieces write is read back. -/
theorem Pieces.parseTerms_eq {terms : List Term} {pieces : List (List Char)}
    (written : Pieces terms pieces) :
    parseTerms ((pieces.map Text.trim).filter (· ≠ [])) = .ok (terms.map Term.requirement) := by
  induction written with
  | nil => rfl
  | blank empty rest inductionHypothesis =>
      rw [List.map_cons, Text.trim_eq_nil_iff.2 empty, List.filter_cons_of_neg (by simp),
        inductionHypothesis]
  | @term term terms piece pieces written rest inductionHypothesis =>
      have parsed : Requirement.parse (Text.trim piece) = .ok term.requirement :=
        Term.parse_trim_eq_ok_iff.2 ⟨term, written, rfl⟩
      -- Nothing can be read from an empty text, so the piece is not dropped.
      have present : Text.trim piece ≠ [] := by
        intro nothing
        rw [nothing] at parsed
        cases parsed
      rw [List.map_cons, List.filter_cons_of_pos (by simpa using present), parseTerms, parsed,
        inductionHypothesis]
      rfl

theorem exists_pieces {pieces : List (List Char)} {requirements : List Requirement}
    (parsed : parseTerms ((pieces.map Text.trim).filter (· ≠ [])) = .ok requirements) :
    ∃ terms, Pieces terms pieces ∧ terms.map Term.requirement = requirements := by
  induction pieces generalizing requirements with
  | nil => cases parsed; exact ⟨[], .nil, rfl⟩
  | cons piece pieces inductionHypothesis =>
      by_cases nothing : Text.trim piece = []
      · rw [List.map_cons, nothing, List.filter_cons_of_neg (by simp)] at parsed
        obtain ⟨terms, rest, same⟩ := inductionHypothesis parsed
        exact ⟨terms, .blank (Text.trim_eq_nil_iff.1 nothing) rest, same⟩
      · rw [List.map_cons, List.filter_cons_of_pos (by simpa using nothing), parseTerms] at parsed
        split at parsed
        · cases parsed
        next requirement reading =>
          obtain ⟨term, written, rfl⟩ := Term.parse_trim_eq_ok_iff.1 reading
          cases further : parseTerms ((pieces.map Text.trim).filter (· ≠ [])) with
          | error error => rw [further] at parsed; cases parsed
          | ok others =>
              rw [further] at parsed
              cases parsed
              obtain ⟨terms, rest, rfl⟩ := inductionHypothesis further
              exact ⟨term :: terms, .term written rest, rfl⟩

/-- A text is accepted exactly if it writes terms, and then their requirements are read. -/
theorem parse_ok_iff_writes {written : String} {selector : Selector} :
    parse written = .ok selector ↔
      ∃ terms, Writes terms written ∧ terms.map Term.requirement = selector.requirements := by
  rw [parse_ok_iff]
  constructor
  · exact exists_pieces
  · rintro ⟨terms, writes, same⟩
    rw [← same]
    exact writes.parseTerms_eq

/-- The parts of a selector are read apart from each other. -/
structure Compositional (read : String → Except SelectorError Selector) : Prop where
  joins : ∀ first second, read (first ++ "," ++ second) =
    (read first).bind fun one => (read second).map one.followedBy
  eachAlone : ∀ written selector, read written = .ok selector → ∀ set,
    (selector.holds set = true ↔ ∀ piece ∈ Text.split ',' written.toList,
      ∃ own, read (String.ofList piece) = .ok own ∧ own.holds set = true)
  unordered : ∀ written other selector, read written = .ok selector →
    (∀ term, term ∈ terms other.toList ↔ term ∈ terms written.toList) →
    ∃ shuffled, read other = .ok shuffled ∧ ∀ set, shuffled.holds set = selector.holds set
  empties : ∀ blank, Padded [] blank.toList → ∀ written,
    read (blank ++ "," ++ written) = read written ∧
    read (written ++ "," ++ blank) = read written ∧
    ∀ behind, read (written ++ "," ++ blank ++ "," ++ behind) = read (written ++ "," ++ behind)
  spaced : ∀ written selector, read written = .ok selector →
    ∃ terms, Writes terms written ∧ terms.map Term.requirement = selector.requirements ∧
      ∀ other, Writes terms other → read other = .ok selector

/-- A selector is made of its terms, in any order and with white space. -/
theorem parse_compositional : Compositional parse where
  joins := parse_join
  eachAlone := by
    intro written selector parsed set
    rw [holds_iff_selects parsed, selects_iff_pieces]
    rfl
  unordered := fun _ _ _ => exists_same_holds
  empties := by
    intro blank empty written
    have nothing : terms blank.toList = [] := terms_eq_nil empty
    refine ⟨parse_congr ?_, parse_congr ?_, fun behind => parse_congr ?_⟩
    · rw [terms_join, nothing, List.nil_append]
    · rw [terms_join, nothing, List.append_nil]
    · rw [terms_join, terms_join, terms_join, nothing, List.append_nil]
  spaced := by
    intro written selector parsed
    obtain ⟨terms, writes, same⟩ := parse_ok_iff_writes.1 parsed
    exact ⟨terms, writes, same, fun other again => parse_ok_iff_writes.2 ⟨terms, again, same⟩⟩

/-- The same terms select the same sets in any order. -/
theorem parse_compositional_shuffled :
    parse "a=b,!c" = .ok ⟨[.equals "a" "b", .absent "c"]⟩ ∧
    ∃ shuffled, parse "!c, ,a=b ,!c" = .ok shuffled ∧
      ∀ set, shuffled.holds set = holds ⟨[.equals "a" "b", .absent "c"]⟩ set := by
  have parsed : parse "a=b,!c" = .ok ⟨[.equals "a" "b", .absent "c"]⟩ := rfl
  have terms : terms "a=b,!c".toList = ["a=b".toList, "!c".toList] := rfl
  have again : Selector.terms "!c, ,a=b ,!c".toList =
      ["!c".toList, "a=b".toList, "!c".toList] := rfl
  refine ⟨parsed, parse_compositional.unordered "a=b,!c" _ _ parsed fun term => ?_⟩
  rw [terms, again]
  simp only [List.mem_cons, List.not_mem_nil]
  grind

end Selector

end ResourceApi
