/-
This file shows that the texts with one start stand together in the order of all texts, and that this
is the order of their bytes.
-/

import ResourceApi.Text.Split

namespace ResourceApi.Text

theorem not_lt_of_isPrefixOf {start text : List Char} (begins : start.isPrefixOf text = true) :
    ¬ text < start := by
  induction start generalizing text with
  | nil => exact List.not_lt_nil text
  | cons first rest inductionHypothesis =>
      cases text with
      | nil => cases begins
      | cons head tail =>
          rw [List.isPrefixOf_cons_cons, Bool.and_eq_true, beq_iff_eq] at begins
          obtain ⟨rfl, begins⟩ := begins
          intro less
          rcases List.cons_lt_cons_iff.1 less with smaller | ⟨_, smaller⟩
          · exact Char.lt_irrefl first smaller
          · exact inductionHypothesis begins smaller

theorem isPrefixOf_between {start middle text : List Char} (notBelow : ¬ middle < start)
    (below : middle < text) (begins : start.isPrefixOf text = true) :
    start.isPrefixOf middle = true := by
  induction start generalizing middle text with
  | nil => rfl
  | cons first rest inductionHypothesis =>
      cases text with
      | nil => cases begins
      | cons head tail =>
          rw [List.isPrefixOf_cons_cons, Bool.and_eq_true, beq_iff_eq] at begins
          obtain ⟨rfl, begins⟩ := begins
          cases middle with
          | nil => exact absurd (List.nil_lt_cons first rest) notBelow
          | cons character others =>
              rw [List.cons_lt_cons_iff, not_or] at notBelow
              rcases List.cons_lt_cons_iff.1 below with smaller | ⟨rfl, smaller⟩
              · exact absurd smaller notBelow.1
              · have further := inductionHypothesis
                  (fun less => notBelow.2 ⟨rfl, less⟩) smaller begins
                rw [List.isPrefixOf_cons_cons, further, beq_self_eq_true, Bool.and_self]

/-- A text does not stand before its own start. -/
theorem not_lt_of_startsWith {text start : String} (begins : startsWith text start = true) :
    ¬ text < start := by
  rw [String.lt_iff]
  exact not_lt_of_isPrefixOf begins

/-- All between a start and a text that begins with it begins with it. -/
theorem startsWith_between {start middle text : String} (notBelow : ¬ middle < start)
    (below : middle < text) (begins : startsWith text start = true) :
    startsWith middle start = true := by
  rw [String.lt_iff] at notBelow below
  exact isPrefixOf_between notBelow below begins

section Bytes

/-- The bytes of the UTF-8 form of a text. -/
def bytes (text : String) : List UInt8 :=
  text.toUTF8.data.toList

/-- All bytes of a character but the first hold six bits each. -/
theorem utf8EncodeChar_cases (character : Char) :
    let code := character.toNat
    code ≤ 0x7F ∧ String.utf8EncodeChar character = [UInt8.ofNat code] ∨
    (0x7F < code ∧ code ≤ 0x7FF) ∧ String.utf8EncodeChar character =
      [UInt8.ofNat (code / 64 + 192), UInt8.ofNat (code % 64 + 128)] ∨
    (0x7FF < code ∧ code ≤ 0xFFFF) ∧ String.utf8EncodeChar character =
      [UInt8.ofNat (code / 4096 + 224), UInt8.ofNat (code / 64 % 64 + 128),
        UInt8.ofNat (code % 64 + 128)] ∨
    (0xFFFF < code ∧ code < 0x110000) ∧ String.utf8EncodeChar character =
      [UInt8.ofNat (code / 262144 + 240), UInt8.ofNat (code / 4096 % 64 + 128),
        UInt8.ofNat (code / 64 % 64 + 128), UInt8.ofNat (code % 64 + 128)] := by
  intro code
  have range : code < 0x110000 := by
    rcases character.valid with below | above
    · have low : code < 0xD800 := below
      omega
    · exact above.2
  have value : character.val.toNat = code := rfl
  unfold String.utf8EncodeChar
  dsimp only
  rw [value]
  by_cases one : code ≤ 0x7F
  · exact Or.inl ⟨one, if_pos one⟩
  · by_cases two : code ≤ 0x7FF
    · have lead : code / 64 % 32 = code / 64 := by omega
      refine Or.inr (Or.inl ⟨by omega, ?_⟩)
      rw [if_neg one, if_pos two, lead]
    · by_cases three : code ≤ 0xFFFF
      · have lead : code / 4096 % 16 = code / 4096 := by omega
        refine Or.inr (Or.inr (Or.inl ⟨by omega, ?_⟩))
        rw [if_neg one, if_neg two, if_pos three, lead]
      · have lead : code / 262144 % 8 = code / 262144 := by omega
        refine Or.inr (Or.inr (Or.inr ⟨by omega, ?_⟩))
        rw [if_neg one, if_neg two, if_neg three, lead]

/-- Numbers are compared by their digits to the base 64. -/
theorem digits_lt {first second : Nat} (less : first < second) :
    first / 262144 < second / 262144 ∨ first / 262144 = second / 262144 ∧
      (first / 4096 % 64 < second / 4096 % 64 ∨ first / 4096 % 64 = second / 4096 % 64 ∧
        (first / 64 % 64 < second / 64 % 64 ∨ first / 64 % 64 = second / 64 % 64 ∧
          first % 64 < second % 64)) := by
  have digits (number : Nat) : number = 262144 * (number / 262144) +
      4096 * (number / 4096 % 64) + 64 * (number / 64 % 64) + number % 64 := by
    omega
  have firstDigits := digits first
  have secondDigits := digits second
  omega

theorem ofNat_cons_lt_iff {first second : Nat} {rest others : List UInt8}
    (firstSmall : first < 256) (secondSmall : second < 256) :
    UInt8.ofNat first :: rest < UInt8.ofNat second :: others ↔
      first < second ∨ first = second ∧ rest < others := by
  rw [List.cons_lt_cons_iff, UInt8.lt_iff_toNat_lt, ← UInt8.toNat_inj,
    UInt8.toNat_ofNat_of_lt' firstSmall, UInt8.toNat_ofNat_of_lt' secondSmall]

/-- What follows two characters does not count if they are different. -/
theorem utf8EncodeChar_append_lt {first second : Char} (less : first < second)
    (rest others : List UInt8) :
    String.utf8EncodeChar first ++ rest < String.utf8EncodeChar second ++ others := by
  have below : first.toNat < second.toNat := less
  have digits := digits_lt below
  rcases utf8EncodeChar_cases first with ⟨_, bytes⟩ | ⟨_, bytes⟩ | ⟨_, bytes⟩ | ⟨_, bytes⟩ <;>
    rcases utf8EncodeChar_cases second with ⟨_, other⟩ | ⟨_, other⟩ | ⟨_, other⟩ | ⟨_, other⟩ <;>
    rw [bytes, other] <;>
    simp (disch := omega) only [List.cons_append, List.nil_append, ofNat_cons_lt_iff] <;>
    omega

theorem flatMap_utf8EncodeChar_lt {first second : List Char} (less : first < second) :
    first.flatMap String.utf8EncodeChar < second.flatMap String.utf8EncodeChar := by
  induction first generalizing second with
  | nil =>
      cases second with
      | nil => exact absurd less (List.not_lt_nil _)
      | cons head tail =>
          rw [List.flatMap_nil, List.flatMap_cons]
          cases form : String.utf8EncodeChar head with
          | nil => exact absurd form String.utf8EncodeChar_ne_nil
          | cons byte bytes => exact List.nil_lt_cons _ _
  | cons character rest inductionHypothesis =>
      cases second with
      | nil => exact absurd less (List.not_lt_nil _)
      | cons head tail =>
          rw [List.flatMap_cons, List.flatMap_cons]
          rcases List.cons_lt_cons_iff.1 less with smaller | ⟨rfl, smaller⟩
          · exact utf8EncodeChar_append_lt smaller _ _
          · exact List.append_left_lt (inductionHypothesis smaller)

theorem bytes_eq (text : String) : bytes text = text.toList.flatMap String.utf8EncodeChar := by
  rw [bytes, String.toUTF8_eq_toByteArray, ← String.utf8Encode_toList, List.utf8Encode,
    List.toList_data_toByteArray]

/-- The order of texts is the order of their bytes. -/
theorem bytes_lt_of_lt {first second : String} (less : first < second) :
    bytes first < bytes second := by
  rw [bytes_eq, bytes_eq]
  exact flatMap_utf8EncodeChar_lt (String.lt_iff.1 less)

end Bytes

end ResourceApi.Text
