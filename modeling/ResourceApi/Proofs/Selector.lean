/-
This file says which selectors are the same after they are printed and read again.
-/

import ResourceApi.Proofs.Selector.Term

namespace ResourceApi

open Text (Padded Trimmed)

namespace Requirement

/-- This says what a term gives, with one constructor for each operator. -/
inductive Reads : List Char → Requirement → Prop
  | differs {before after : List Char} {key : String} (isKey : IsKey key)
      (named : Text.trim before = key.toList) :
      Reads (before ++ ['!', '='] ++ after) (.differs key (trimmed after))
  | equals {before mark after : List Char} {key : String} (isKey : IsKey key)
      (named : Text.trim before = key.toList) (marked : '=' ∈ mark)
      (unmarked : ¬ ['!', '='] <:+: before ++ mark ++ after) :
      Reads (before ++ mark ++ after) (.equals key (trimmed after))
  | absent {written : List Char} {key : String} (isKey : IsKey key)
      (named : Text.trim written = key.toList) : Reads ('!' :: written) (.absent key)
  | present {written : List Char} {key : String} (isKey : IsKey key)
      (named : Text.trim written = key.toList) : Reads written (.present key)

theorem reads_of_parse {term : List Char} {requirement : Requirement}
    (parsed : parse term = .ok requirement) : Reads term requirement := by
  obtain ⟨written, spells, rfl⟩ := Term.exists_of_parse parsed
  cases written with
  | compares sign key value isKey ends allowed =>
      obtain ⟨before, after, aroundKey, aroundValue, rfl⟩ := spells
      have named := aroundKey.trim_eq isKey.trimmed
      have given : trimmed after = value := by
        rw [trimmed, aroundValue.trim_eq ends, String.ofList_toList]
      have unmarked (equality : sign ≠ .unequal) := (Text.splitOnce_eq_none_iff (by simp)).1
        (Sign.splitOnce_unequal_eq_none equality isKey allowed aroundKey aroundValue)
      subst given
      cases sign with
      | unequal => exact .differs isKey named
      | doubled => exact .equals isKey named (by simp [Sign.mark]) (unmarked (by simp))
      | single => exact .equals isKey named (by simp [Sign.mark]) (unmarked (by simp))
  | absent key isKey =>
      obtain ⟨after, around, rfl⟩ := spells
      exact .absent isKey (around.trim_eq isKey.trimmed)
  | present key isKey => exact .present isKey (Padded.trim_eq spells isKey.trimmed)

/-- What is printed is the term with characters left out. -/
theorem Reads.display_sublist {term : List Char} {requirement : Requirement}
    (reads : Reads term requirement) : requirement.display.toList.Sublist term := by
  cases reads with
  | @differs before after key isKey named =>
      rw [display, String.toList_append, String.toList_append, ← named]
      exact ((Text.trim_infix_self before).sublist.append (List.Sublist.refl _)).append
        (trimmed_infix_self after).sublist
  | @equals before mark after key isKey named marked unmarked =>
      rw [display, String.toList_append, String.toList_append, ← named]
      exact ((Text.trim_infix_self before).sublist.append (List.singleton_sublist.2 marked)).append
        (trimmed_infix_self after).sublist
  | @absent written key isKey named =>
      rw [display, String.toList_append, ← named]
      exact (Text.trim_infix_self written).sublist.cons_cons '!'
  | @present written key isKey named =>
      rw [display, ← named]
      exact (Text.trim_infix_self term).sublist

/-- This is what is left to know of a requirement once its term is forgotten. -/
def Plain : Requirement → Prop
  | .equals key value => IsKey key ∧ Trimmed value.toList ∧ ¬ ['!', '='] <:+: value.toList
  | .differs key value => IsKey key ∧ Trimmed value.toList
  | .present key => IsKey key
  | .absent key => IsKey key

theorem Reads.plain {term : List Char} {requirement : Requirement}
    (reads : Reads term requirement) : requirement.Plain := by
  cases reads with
  | differs isKey named => exact ⟨isKey, trimmed_trimmed _⟩
  | equals isKey named marked unmarked =>
      refine ⟨isKey, trimmed_trimmed _, fun inside => unmarked ?_⟩
      exact (inside.trans (trimmed_infix_self _)).trans (List.suffix_append _ _).isInfix
  | absent isKey named => exact isKey
  | present isKey named => exact isKey

namespace Plain

variable {requirement : Requirement}

theorem display_trimmed (plain : requirement.Plain) : Trimmed requirement.display.toList := by
  have mark : Trimmed "=".toList := Text.trimmed_singleton rfl
  have exclamation : Trimmed "!".toList := Text.trimmed_singleton rfl
  have both : Trimmed "!=".toList := exclamation.append mark
  cases requirement with
  | equals key value =>
      rw [display, String.toList_append, String.toList_append]
      exact (plain.1.trimmed.append mark).append plain.2.1
  | differs key value =>
      rw [display, String.toList_append, String.toList_append]
      exact (plain.1.trimmed.append both).append plain.2
  | present key => exact IsKey.trimmed plain
  | absent key =>
      rw [display, String.toList_append]
      exact exclamation.append (IsKey.trimmed plain)

theorem display_ne_nil (plain : requirement.Plain) : requirement.display.toList ≠ [] := by
  cases requirement with
  | equals key value => simp [display]
  | differs key value => simp [display]
  | present key => exact plain.present
  | absent key => simp [display]

end Plain

theorem parse_display_differs {key value : String} (isKey : IsKey key)
    (ends : Trimmed value.toList) :
    parse (display (.differs key value)).toList = .ok (.differs key value) := by
  rw [display, String.toList_append, String.toList_append]
  exact Sign.unequal.parse_eq isKey trivial (Text.trim_eq_self isKey.trimmed)
    (Text.trim_eq_self ends)

theorem parse_display_present {key : String} (isKey : IsKey key) :
    parse (display (.present key)).toList = .ok (.present key) :=
  parse_present isKey

theorem parse_display_absent {key : String} (isKey : IsKey key) :
    parse (display (.absent key)).toList = .ok (.absent key) := by
  rw [display, String.toList_append]
  exact parse_absent isKey (Text.trim_eq_self isKey.trimmed)

/-- Behind a single equals sign no value is read that holds another one. -/
theorem parse_display_equals_iff {key value : String} (isKey : IsKey key)
    (ends : Trimmed value.toList) :
    parse (display (.equals key value)).toList = .ok (.equals key value) ↔
      '=' ∉ value.toList := by
  constructor
  · intro parsed inside
    obtain ⟨term, spells, same⟩ := Term.exists_of_parse parsed
    cases term with
    | compares sign name given isName ends allowed =>
        obtain ⟨before, after, aroundKey, aroundValue, printed⟩ := spells
        cases sign with
        | unequal => cases same
        | doubled =>
            -- The double sign is longer than the one that was printed.
            cases same
            have lengths := congrArg List.length printed
            have keyLength := aroundKey.length_le
            have valueLength := aroundValue.length_le
            have single : "=".toList.length = 1 := rfl
            simp only [display, Sign.mark, String.toList_append, List.length_append, single,
              List.length_cons, List.length_nil] at lengths
            omega
        | single =>
            cases same
            exact allowed inside
    | absent key isKey => cases same
    | present key isKey => cases same
  · intro free
    rw [display, String.toList_append, String.toList_append]
    exact Sign.single.parse_eq isKey free (Text.trim_eq_self isKey.trimmed)
      (Text.trim_eq_self ends)

theorem Plain.parse_display_iff {requirement : Requirement} (plain : requirement.Plain) :
    parse requirement.display.toList = .ok requirement ↔
      ∀ key value, requirement = .equals key value → '=' ∉ value.toList := by
  cases requirement with
  | equals key value =>
      rw [parse_display_equals_iff plain.1 plain.2.1]
      simp
  | differs key value => simp [parse_display_differs plain.1 plain.2]
  | present key => simp [parse_display_present plain]
  | absent key => simp [parse_display_absent plain]

end Requirement

namespace Selector

theorem no_comma_of_mem_terms {written term : List Char} (inside : term ∈ terms written) :
    ',' ∉ term := by
  rw [terms, List.mem_filter, List.mem_map] at inside
  obtain ⟨⟨piece, found, rfl⟩, -⟩ := inside
  exact fun comma =>
    Text.not_mem_of_mem_split found ((Text.trim_infix_self piece).sublist.subset comma)

theorem exists_term_of_parseTerms {terms : List (List Char)} {requirements : List Requirement}
    (parsed : parseTerms terms = .ok requirements) {requirement : Requirement}
    (inside : requirement ∈ requirements) :
    ∃ term ∈ terms, Requirement.parse term = .ok requirement := by
  induction terms generalizing requirements with
  | nil => cases parsed; cases inside
  | cons term rest inductionHypothesis =>
      rw [parseTerms] at parsed
      split at parsed
      · cases parsed
      next first reading =>
        cases further : parseTerms rest with
        | error error => rw [further] at parsed; cases parsed
        | ok others =>
            rw [further] at parsed
            cases parsed
            rcases List.mem_cons.1 inside with rfl | later
            · exact ⟨term, List.mem_cons_self, reading⟩
            · obtain ⟨other, found, same⟩ := inductionHypothesis further later
              exact ⟨other, List.mem_cons_of_mem _ found, same⟩

/-- Terms give back the requirements that they were made from exactly if each of them does. -/
theorem parseTerms_map_iff {print : Requirement → List Char} {requirements : List Requirement} :
    parseTerms (requirements.map print) = .ok requirements ↔
      ∀ requirement ∈ requirements, Requirement.parse (print requirement) = .ok requirement := by
  induction requirements with
  | nil => simp [parseTerms]
  | cons requirement rest inductionHypothesis =>
      rw [List.map_cons, parseTerms, List.forall_mem_cons, ← inductionHypothesis]
      cases Requirement.parse (print requirement) with
      | error error => simp
      | ok read => cases parseTerms (rest.map print) <;> simp [Except.map]

/-- The commas and the white space around a printed requirement are not part of it. -/
theorem terms_display {selector : Selector}
    (plain : ∀ requirement ∈ selector.requirements, requirement.Plain)
    (single : ∀ requirement ∈ selector.requirements, ',' ∉ requirement.display.toList) :
    terms selector.display.toList =
      selector.requirements.map fun requirement => requirement.display.toList := by
  cases present : selector.requirements with
  | nil => simp [display, present, Text.join, terms, Text.split, Text.trim, Text.dropEnd]
  | cons first rest =>
      rw [← present]
      have pieces : Text.split ',' selector.display.toList =
          (selector.requirements.map Requirement.display).map String.toList :=
        Text.split_join rfl (by simp [present]) (by simpa using single)
      have kept (requirement : Requirement) (inside : requirement ∈ selector.requirements) :
          Text.trim requirement.display.toList = requirement.display.toList :=
        Text.trim_eq_self (plain requirement inside).display_trimmed
      have unchanged : ((selector.requirements.map Requirement.display).map String.toList).map
          Text.trim = selector.requirements.map fun requirement => requirement.display.toList := by
        rw [List.map_map, List.map_map]
        exact List.map_congr_left kept
      rw [terms, pieces, unchanged, List.filter_eq_self]
      intro term inside
      obtain ⟨requirement, found, rfl⟩ := List.mem_map.1 inside
      simpa using (plain requirement found).display_ne_nil

/-- A selector whose parts cannot be mistaken is read as it is printed. -/
theorem parse_display {selector : Selector}
    (plain : ∀ requirement ∈ selector.requirements, requirement.Plain)
    (single : ∀ requirement ∈ selector.requirements, ',' ∉ requirement.display.toList)
    (free : ∀ key value, .equals key value ∈ selector.requirements → '=' ∉ value.toList) :
    parse selector.display = .ok selector := by
  have each : parseTerms (selector.requirements.map fun requirement =>
      requirement.display.toList) = .ok selector.requirements := by
    refine parseTerms_map_iff.2 fun requirement inside => ?_
    exact (plain requirement inside).parse_display_iff.2 fun key value form =>
      free key value (form ▸ inside)
  rw [parse, terms_display plain single, each]
  rfl

/-- A printed selector is read back unless an equal value holds an equals sign. -/
theorem display_faithful_iff {written : String} {selector : Selector}
    (parsed : parse written = .ok selector) :
    parse selector.display = .ok selector ↔
      ∀ key value, .equals key value ∈ selector.requirements → '=' ∉ value.toList := by
  have readTerms : parseTerms (terms written.toList) = .ok selector.requirements := by
    rw [parse] at parsed
    cases reading : parseTerms (terms written.toList) with
    | error error => rw [reading] at parsed; cases parsed
    | ok requirements => rw [reading] at parsed; cases parsed; rfl
  have plain (requirement : Requirement) (inside : requirement ∈ selector.requirements) :
      requirement.Plain := by
    obtain ⟨term, -, reading⟩ := exists_term_of_parseTerms readTerms inside
    exact (Requirement.reads_of_parse reading).plain
  have single (requirement : Requirement) (inside : requirement ∈ selector.requirements) :
      ',' ∉ requirement.display.toList := by
    obtain ⟨term, found, reading⟩ := exists_term_of_parseTerms readTerms inside
    have shorter := (Requirement.reads_of_parse reading).display_sublist
    exact fun comma => no_comma_of_mem_terms found (shorter.subset comma)
  have again : parse selector.display = .ok selector ↔
      parseTerms (selector.requirements.map fun requirement => requirement.display.toList) =
        .ok selector.requirements := by
    rw [parse, terms_display plain single]
    cases parseTerms (selector.requirements.map fun requirement => requirement.display.toList) with
    | error error => simp [Except.map]
    | ok requirements => cases selector; simp [Except.map]
  rw [again, parseTerms_map_iff]
  constructor
  · intro each key value inside
    exact (plain _ inside).parse_display_iff.1 (each _ inside) key value rfl
  · intro free requirement inside
    refine (plain requirement inside).parse_display_iff.2 fun key value form => ?_
    exact free key value (form ▸ inside)

/-- An inequality keeps the equals signs of its value, and an equation does not. -/
theorem display_faithful_unless_equation :
    (parse "env!=a=b, !legacy" = .ok ⟨[.differs "env" "a=b", .absent "legacy"]⟩ ∧
      parse "env!=a=b,!legacy" = .ok ⟨[.differs "env" "a=b", .absent "legacy"]⟩) ∧
    (parse "a===b" = .ok ⟨[.equals "a" "=b"]⟩ ∧ parse "a==b" ≠ .ok ⟨[.equals "a" "=b"]⟩) := by
  have inequality : parse "env!=a=b, !legacy" =
      .ok ⟨[.differs "env" "a=b", .absent "legacy"]⟩ := rfl
  have equation : parse "a===b" = .ok ⟨[.equals "a" "=b"]⟩ := rfl
  refine ⟨⟨inequality, (display_faithful_iff inequality).2 ?_⟩, equation, fun again => ?_⟩
  · simp
  · exact (display_faithful_iff equation).1 again "a" "=b" (by simp) (by decide)

end Selector

end ResourceApi
