/-
This file shows that a listing finds all documents whose keys begin with its root, and no others.
-/

import ResourceApi.Backend
import ResourceApi.Proofs.Dict
import ResourceApi.Proofs.Text.Order

namespace ResourceApi

universe u

section Lists

variable {Element : Type u} {related : Element → Element → Prop} {wanted passed : Element → Bool}
  {list : List Element}

/-- What is wanted stands in front if nothing wanted follows an unwanted element. -/
theorem takeWhile_eq_filter (ordered : list.Pairwise related)
    (together : ∀ first ∈ list, ∀ second ∈ list, related first second → wanted second = true →
      wanted first = true) :
    list.takeWhile wanted = list.filter wanted := by
  induction list with
  | nil => rfl
  | cons head rest inductionHypothesis =>
      obtain ⟨before, tail⟩ := List.pairwise_cons.1 ordered
      have inner := inductionHypothesis tail fun first firstInside second secondInside =>
        together first (List.mem_cons_of_mem _ firstInside) second
          (List.mem_cons_of_mem _ secondInside)
      cases found : wanted head with
      | true => rw [List.takeWhile_cons_of_pos found, List.filter_cons_of_pos found, inner]
      | false =>
          have unwanted : wanted head ≠ true := by simp [found]
          rw [List.takeWhile_cons_of_neg unwanted, List.filter_cons_of_neg unwanted]
          refine (List.filter_eq_nil_iff.2 ?_).symm
          intro element inside wantedElement
          exact unwanted (together head List.mem_cons_self element (List.mem_cons_of_mem _ inside)
            (before element inside) wantedElement)

/-- What is passed over in front is not wanted. -/
theorem filter_dropWhile (unwanted : ∀ element, passed element = true → wanted element = false)
    (list : List Element) : (list.dropWhile passed).filter wanted = list.filter wanted := by
  induction list with
  | nil => rfl
  | cons head rest inductionHypothesis =>
      cases skipped : passed head with
      | true =>
          have dropped : wanted head ≠ true := by simp [unwanted head skipped]
          rw [List.dropWhile_cons_of_pos skipped, List.filter_cons_of_neg dropped,
            inductionHypothesis]
      | false => rw [List.dropWhile_cons_of_neg (by simp [skipped])]

/-- Behind what was passed over in an ordered list, nothing is passed over. -/
theorem not_passed_of_mem_dropWhile (ordered : list.Pairwise related)
    (downward : ∀ first second, related first second → passed second = true → passed first = true)
    {element : Element} (inside : element ∈ list.dropWhile passed) : passed element = false := by
  induction list with
  | nil => cases inside
  | cons head rest inductionHypothesis =>
      obtain ⟨before, tail⟩ := List.pairwise_cons.1 ordered
      cases skipped : passed head with
      | true =>
          rw [List.dropWhile_cons_of_pos skipped] at inside
          exact inductionHypothesis tail inside
      | false =>
          rw [List.dropWhile_cons_of_neg (by simp [skipped])] at inside
          rcases List.mem_cons.1 inside with rfl | behind
          · exact skipped
          · cases found : passed element with
            | false => rfl
            | true =>
                rw [downward head element (before element behind) found] at skipped
                exact skipped

end Lists

namespace Backend

/-- The documents below the root with their keys, in the order of the keys. -/
def below (backend : Backend) (root : String) : List (String × Json) :=
  backend.items.entries.filter fun entry => Text.startsWith entry.1 root

theorem mem_below_iff {backend : Backend} {root key : String} {document : Json} :
    (key, document) ∈ backend.below root ↔
      backend.items.get? key = some document ∧ Text.startsWith key root = true := by
  rw [below, List.mem_filter, Dict.get?_eq_some_iff]

/-- Their keys are different and in the order of their bytes. -/
theorem pairwise_below (backend : Backend) (root : String) :
    (backend.below root).Pairwise fun first second =>
      Text.bytes first.1 < Text.bytes second.1 := by
  have increasing := backend.items.increasing
  unfold Entries.Increasing at increasing
  exact (increasing.filter _).imp Text.bytes_lt_of_lt

/-- A listing is a filter by the start of the key. -/
theorem list_items (backend : Backend) (root : String) :
    (backend.list root).items =
      (backend.items.entries.filter fun entry => Text.startsWith entry.1 root).map Prod.snd := by
  have ordered := backend.items.increasing
  have after : (backend.items.entries.dropWhile fun entry => entry.1 < root).Pairwise
      fun first second => first.1 < second.1 :=
    ordered.sublist (List.dropWhile_sublist _)
  have downward (first second : String × Json) (below : first.1 < second.1)
      (secondBelow : decide (second.1 < root) = true) : decide (first.1 < root) = true :=
    decide_eq_true (String.lt_trans below (of_decide_eq_true secondBelow))
  have notBelow {entry : String × Json}
      (inside : entry ∈ backend.items.entries.dropWhile fun entry => entry.1 < root) :
      ¬ entry.1 < root := by
    have kept : decide (entry.1 < root) = false :=
      not_passed_of_mem_dropWhile ordered downward inside
    exact of_decide_eq_false kept
  have unwanted (entry : String × Json) (below : decide (entry.1 < root) = true) :
      Text.startsWith entry.1 root = false := by
    cases begins : Text.startsWith entry.1 root with
    | false => rfl
    | true => exact absurd (of_decide_eq_true below) (Text.not_lt_of_startsWith begins)
  have scanned := takeWhile_eq_filter after fun first firstInside second _ below begins =>
    Text.startsWith_between (notBelow firstInside) below begins
  rw [list, scanned, filter_dropWhile unwanted]

end Backend

end ResourceApi
