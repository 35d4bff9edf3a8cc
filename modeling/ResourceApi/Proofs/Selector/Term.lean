/-
This file says how a requirement is written: with a sign between its key and its value, and with any
white space around these. A text is read as a requirement exactly if it is written in such a way.
-/

import ResourceApi.Proofs.Text.Blank
import ResourceApi.Proofs.Text.Split
import ResourceApi.Selector

namespace ResourceApi

open Text (Padded Trimmed)

namespace Requirement

/-- A name that can stand for a key is not empty and has key characters only. -/
structure IsKey (name : String) : Prop where
  present : name.toList ≠ []
  plain : ∀ character ∈ name.toList, isKeyCharacter character = true

theorem IsKey.trimmed {name : String} (key : IsKey name) : Trimmed name.toList :=
  Text.trimmed_of_all fun character inside => by
    have plain := key.plain character inside
    simp only [isKeyCharacter, Bool.not_eq_true', Bool.or_eq_false_iff] at plain
    exact plain.1.1

theorem IsKey.no_exclamation {name : String} (key : IsKey name) : '!' ∉ name.toList :=
  fun inside => absurd (key.plain _ inside) (by decide)

theorem IsKey.no_equals {name : String} (key : IsKey name) : '=' ∉ name.toList :=
  fun inside => absurd (key.plain _ inside) (by decide)

theorem readKey_eq_ok_iff {term key : List Char} {name : String} :
    readKey term key = .ok name ↔ IsKey name ∧ Text.trim key = name.toList := by
  rw [readKey]
  constructor
  · intro read
    split at read
    · cases read
    next present =>
      split at read
      next plain =>
        cases read
        rw [List.all_eq_true] at plain
        exact ⟨⟨by simpa using present, by simpa using plain⟩, by simp⟩
      · cases read
  · rintro ⟨isKey, equal⟩
    rw [equal, if_neg isKey.present, if_pos (List.all_eq_true.2 isKey.plain), String.ofList_toList]

theorem readKey_self {name : String} (isKey : IsKey name) (term : List Char) :
    readKey term name.toList = .ok name :=
  readKey_eq_ok_iff.2 ⟨isKey, Text.trim_eq_self isKey.trimmed⟩

theorem trimmed_trimmed (written : List Char) : Trimmed (trimmed written).toList := by
  rw [trimmed, String.toList_ofList]
  exact Text.trimmed_trim written

theorem trimmed_infix_self (written : List Char) : (trimmed written).toList <:+: written := by
  rw [trimmed, String.toList_ofList]
  exact Text.trim_infix_self written

theorem map_readKey_eq_ok {term written : List Char} {form : String → Requirement}
    {requirement : Requirement} (read : (readKey term written).map form = .ok requirement) :
    ∃ key, IsKey key ∧ Text.trim written = key.toList ∧ requirement = form key := by
  cases reading : readKey term written with
  | error error => rw [reading] at read; cases read
  | ok key =>
      rw [reading] at read
      obtain ⟨isKey, named⟩ := readKey_eq_ok_iff.1 reading
      exact ⟨key, isKey, named, (Except.ok.inj read).symm⟩

end Requirement

/-- A sign stands between a key and a value. -/
inductive Sign where
  | unequal
  | doubled
  | single

namespace Sign

def mark : Sign → List Char
  | .unequal => ['!', '=']
  | .doubled => ['=', '=']
  | .single => ['=']

def requirement : Sign → String → String → Requirement
  | .unequal => .differs
  | .doubled => .equals
  | .single => .equals

/-- The value must not hold a sign that would be found in place of this one. -/
def Allows : Sign → String → Prop
  | .unequal, _ => True
  | .doubled, value => ¬ ['!', '='] <:+: value.toList
  | .single, value => '=' ∉ value.toList

theorem mark_ne_nil (sign : Sign) : sign.mark ≠ [] := by
  cases sign <;> exact List.cons_ne_nil _ _

theorem mark_solid (sign : Sign) : ∀ character ∈ sign.mark, Text.isBlank character = false := by
  have equals : ∀ character ∈ ['='], Text.isBlank character = false :=
    List.forall_mem_cons.2 ⟨rfl, nofun⟩
  cases sign with
  | unequal => exact List.forall_mem_cons.2 ⟨rfl, equals⟩
  | doubled => exact List.forall_mem_cons.2 ⟨rfl, equals⟩
  | single => exact equals

theorem mark_trimmed (sign : Sign) : Trimmed sign.mark :=
  Text.trimmed_of_all sign.mark_solid

end Sign

/-- A term is what one requirement is read from, without the white space around its parts. -/
inductive Term where
  | compares (sign : Sign) (key value : String) (isKey : Requirement.IsKey key)
      (ends : Trimmed value.toList) (allowed : sign.Allows value)
  | absent (key : String) (isKey : Requirement.IsKey key)
  | present (key : String) (isKey : Requirement.IsKey key)

namespace Term

def requirement : Term → Requirement
  | .compares sign key value _ _ _ => sign.requirement key value
  | .absent key _ => .absent key
  | .present key _ => .present key

/-- The text is the term with any white space around its key and around its value. -/
def Spells : Term → List Char → Prop
  | .compares sign key value _ _ _, written =>
      ∃ before after, Padded key.toList before ∧ Padded value.toList after ∧
        written = before ++ sign.mark ++ after
  | .absent key _, written => ∃ after, Padded key.toList after ∧ written = '!' :: after
  | .present key _, written => Padded key.toList written

/-- There may also be white space around the whole term. -/
def Writes (term : Term) (written : List Char) : Prop :=
  ∃ inner, term.Spells inner ∧ Padded inner written

end Term

section Signs

variable {before after : List Char}

/-- An equals sign is no inequality unless an exclamation mark stands in front of it. -/
theorem splitOnce_unequal_eq_none (noExclamation : '!' ∉ before)
    (unmarked : ¬ ['!', '='] <:+: after) :
    Text.splitOnce ['!', '='] (before ++ '=' :: after) = none := by
  have behind : Text.splitOnce ['!', '='] ('=' :: after) = none := by
    rw [Text.splitOnce_eq_none_iff (by simp), List.infix_cons_iff, not_or]
    exact ⟨by simp, unmarked⟩
  rw [Text.splitOnce_append noExclamation, behind, Option.map_none]

theorem splitOnce_doubled_eq_none (noEquals : '=' ∉ before) (single : '=' ∉ after) :
    Text.splitOnce ['=', '='] (before ++ '=' :: after) = none := by
  have behind : Text.splitOnce ['=', '='] ('=' :: after) = none := by
    rw [Text.splitOnce_eq_none_iff (by simp), List.infix_cons_iff, not_or]
    refine ⟨fun begins => ?_, fun inside => single (inside.sublist.subset (by simp))⟩
    exact single ((List.cons_prefix_cons.1 begins).2.subset (by simp))
  rw [Text.splitOnce_append noEquals, behind, Option.map_none]

variable {key value : String}

/-- A sign of equality is not taken for an inequality. -/
theorem Sign.splitOnce_unequal_eq_none {sign : Sign} (equality : sign ≠ .unequal)
    (isKey : Requirement.IsKey key) (allowed : sign.Allows value)
    (aroundKey : Padded key.toList before) (aroundValue : Padded value.toList after) :
    Text.splitOnce ['!', '='] (before ++ sign.mark ++ after) = none := by
  have noExclamation : '!' ∉ before := mt (aroundKey.mem_iff rfl).1 isKey.no_exclamation
  rw [List.append_assoc]
  cases sign with
  | unequal => exact absurd rfl equality
  | doubled =>
      refine ResourceApi.splitOnce_unequal_eq_none noExclamation ?_
      have unmarked := mt (aroundValue.infix_iff Sign.unequal.mark_solid).1 allowed
      rw [List.append_eq, List.singleton_append, List.infix_cons_iff, not_or]
      exact ⟨by simp, unmarked⟩
  | single =>
      refine ResourceApi.splitOnce_unequal_eq_none noExclamation fun inside => ?_
      have unmarked : '=' ∉ after := mt (aroundValue.mem_iff rfl).1 allowed
      exact unmarked (inside.sublist.subset (by simp))

/-- The sign is found between a key and a value that allows it. -/
theorem Sign.parse_eq (sign : Sign) (isKey : Requirement.IsKey key) (allowed : sign.Allows value)
    (named : Text.trim before = key.toList) (given : Text.trim after = value.toList) :
    Requirement.parse (before ++ sign.mark ++ after) = .ok (sign.requirement key value) := by
  have aroundKey := (Text.trim_eq_iff.1 named).2
  have aroundValue := (Text.trim_eq_iff.1 given).2
  have noExclamation : '!' ∉ before := mt (aroundKey.mem_iff rfl).1 isKey.no_exclamation
  have noEquals : '=' ∉ before := mt (aroundKey.mem_iff rfl).1 isKey.no_equals
  have read (term : List Char) : Requirement.readKey term before = .ok key :=
    Requirement.readKey_eq_ok_iff.2 ⟨isKey, named⟩
  have kept : Requirement.trimmed after = value := by
    rw [Requirement.trimmed, given, String.ofList_toList]
  have missed (equality : sign ≠ .unequal) :=
    Sign.splitOnce_unequal_eq_none equality isKey allowed aroundKey aroundValue
  unfold Requirement.parse
  rw [List.append_assoc] at missed ⊢
  cases sign with
  | unequal =>
      have found : Text.splitOnce ['!', '='] (before ++ (['!', '='] ++ after)) =
          some (before, after) := Text.splitOnce_first noExclamation after
      rw [mark, found]
      simp only [read, kept, Except.map, Sign.requirement]
  | doubled =>
      have found : Text.splitOnce ['=', '='] (before ++ (['=', '='] ++ after)) =
          some (before, after) := Text.splitOnce_first noEquals after
      rw [missed nofun, mark, found]
      simp only [read, kept, Except.map, Sign.requirement]
  | single =>
      have single : '=' ∉ after := mt (aroundValue.mem_iff rfl).1 allowed
      have missedAgain : Text.splitOnce ['=', '='] (before ++ (['='] ++ after)) = none :=
        splitOnce_doubled_eq_none noEquals single
      have found : Text.splitOnce ['='] (before ++ (['='] ++ after)) = some (before, after) :=
        Text.splitOnce_first noEquals after
      rw [missed nofun, mark, missedAgain, found]
      simp only [read, kept, Except.map, Sign.requirement, List.contains_iff_mem, single, if_false]

end Signs

namespace Requirement

variable {written : List Char} {key : String}

theorem parse_absent (isKey : IsKey key) (named : Text.trim written = key.toList) :
    parse ('!' :: written) = .ok (.absent key) := by
  have around := (Text.trim_eq_iff.1 named).2
  have missed {mark : List Char} (marked : '=' ∈ mark) :
      Text.splitOnce mark ('!' :: written) = none := by
    refine Text.splitOnce_eq_none_of_not_mem marked ?_
    rw [List.mem_cons, not_or]
    exact ⟨by decide, mt (around.mem_iff rfl).1 isKey.no_equals⟩
  unfold parse
  rw [missed (by simp), missed (by simp), missed (by simp)]
  simp only [readKey_eq_ok_iff.2 ⟨isKey, named⟩, Except.map]

theorem parse_present (isKey : IsKey key) : parse key.toList = .ok (.present key) := by
  have missed {mark : List Char} (marked : '=' ∈ mark) : Text.splitOnce mark key.toList = none :=
    Text.splitOnce_eq_none_of_not_mem marked isKey.no_equals
  unfold parse
  rw [missed (by simp), missed (by simp), missed (by simp)]
  simp only
  split
  next rest begins => exact absurd (by simp [begins]) isKey.no_exclamation
  next begins => rw [readKey_self isKey, Except.map]

end Requirement

namespace Term

/-- A term is read back, whatever white space it was written with. -/
theorem parse_of_spells {term : Term} {written : List Char} (spells : term.Spells written) :
    Requirement.parse (Text.trim written) = .ok term.requirement := by
  cases term with
  | compares sign key value isKey ends allowed =>
      obtain ⟨before, after, named, given, rfl⟩ := spells
      -- Trimming stops at the key and at the value, or else at the sign between them.
      rw [Text.trim_append before after sign.mark_ne_nil sign.mark_trimmed]
      refine sign.parse_eq isKey allowed ?_ ?_
      · exact (Text.padded_dropWhile before).trim_congr.symm.trans (named.trim_eq isKey.trimmed)
      · exact (Text.padded_dropEnd after).trim_congr.symm.trans (given.trim_eq ends)
  | absent key isKey =>
      obtain ⟨after, named, rfl⟩ := spells
      have ends : Trimmed ['!'] := Text.trimmed_singleton rfl
      have shortened : Text.trim ('!' :: after) = '!' :: Text.dropEnd Text.isBlank after :=
        Text.trim_append [] after (List.cons_ne_nil _ _) ends
      rw [shortened]
      refine Requirement.parse_absent isKey ?_
      exact (Text.padded_dropEnd after).trim_congr.symm.trans (named.trim_eq isKey.trimmed)
  | present key isKey =>
      rw [Padded.trim_eq spells isKey.trimmed]
      exact Requirement.parse_present isKey

/-- A key and a value on both sides of a sign make a term. -/
theorem exists_of_sign (sign : Sign) {term before after : List Char} {requirement : Requirement}
    (read : (Requirement.readKey term before).map
      (sign.requirement · (Requirement.trimmed after)) = .ok requirement)
    (allowed : sign.Allows (Requirement.trimmed after)) :
    ∃ written : Term, written.Spells (before ++ sign.mark ++ after) ∧
      written.requirement = requirement := by
  obtain ⟨key, isKey, named, rfl⟩ := Requirement.map_readKey_eq_ok read
  have aroundValue : Padded (Requirement.trimmed after).toList after := by
    rw [Requirement.trimmed, String.toList_ofList]
    exact Text.padded_trim after
  exact ⟨.compares sign key _ isKey (Requirement.trimmed_trimmed after) allowed,
    ⟨before, after, (Text.trim_eq_iff.1 named).2, aroundValue, rfl⟩, rfl⟩

/-- Nothing but a written term is read as a requirement. -/
theorem exists_of_parse {written : List Char} {requirement : Requirement}
    (parsed : Requirement.parse written = .ok requirement) :
    ∃ term : Term, term.Spells written ∧ term.requirement = requirement := by
  unfold Requirement.parse at parsed
  split at parsed
  next before after found =>
    rw [Text.eq_of_splitOnce found]
    exact exists_of_sign .unequal parsed trivial
  next missed =>
    have unmarked := (Text.splitOnce_eq_none_iff (by simp)).1 missed
    split at parsed
    next before after found =>
      rw [Text.eq_of_splitOnce found] at unmarked ⊢
      refine exists_of_sign .doubled parsed fun inside => unmarked ?_
      exact (inside.trans (Requirement.trimmed_infix_self after)).trans
        (List.suffix_append _ _).isInfix
    · split at parsed
      next before after found =>
        split at parsed
        · cases parsed
        next single =>
          rw [Text.eq_of_splitOnce found]
          refine exists_of_sign .single parsed fun inside => single ?_
          exact List.contains_iff_mem.2
            ((Requirement.trimmed_infix_self after).sublist.subset inside)
      · split at parsed
        · obtain ⟨key, isKey, named, rfl⟩ := Requirement.map_readKey_eq_ok parsed
          exact ⟨.absent key isKey, ⟨_, (Text.trim_eq_iff.1 named).2, rfl⟩, rfl⟩
        · obtain ⟨key, isKey, named, rfl⟩ := Requirement.map_readKey_eq_ok parsed
          exact ⟨.present key isKey, (Text.trim_eq_iff.1 named).2, rfl⟩

/-- What is read from a trimmed text is a term that the text writes. -/
theorem parse_trim_eq_ok_iff {written : List Char} {requirement : Requirement} :
    Requirement.parse (Text.trim written) = .ok requirement ↔
      ∃ term : Term, term.Writes written ∧ term.requirement = requirement := by
  constructor
  · intro parsed
    obtain ⟨term, spells, same⟩ := exists_of_parse parsed
    exact ⟨term, ⟨Text.trim written, spells, Text.padded_trim written⟩, same⟩
  · rintro ⟨term, ⟨inner, spells, padded⟩, rfl⟩
    rw [padded.trim_congr]
    exact parse_of_spells spells

end Term

end ResourceApi
