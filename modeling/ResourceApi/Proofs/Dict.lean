/-
This file shows that the entries of a dictionary and its lookups say the same.
-/

import ResourceApi.Dict

namespace ResourceApi

namespace Entries

variable {Value : Type}

@[simp] theorem find?_nil (sought : String) : find? sought ([] : List (String × Value)) = none := rfl

@[simp] theorem find?_cons (sought : String) (entry : String × Value)
    (rest : List (String × Value)) :
    find? sought (entry :: rest) = if entry.1 = sought then some entry.2 else find? sought rest :=
  rfl

@[simp] theorem find?_append (sought : String) (first second : List (String × Value)) :
    find? sought (first ++ second) = (find? sought first).or (find? sought second) := by
  induction first with
  | nil => rfl
  | cons head rest inductionHypothesis =>
      by_cases here : head.1 = sought
      · simp [here]
      · simp [here, inductionHypothesis]

theorem mem_of_find? {sought : String} {value : Value} {entries : List (String × Value)}
    (found : find? sought entries = some value) : (sought, value) ∈ entries := by
  induction entries with
  | nil => cases found
  | cons head rest inductionHypothesis =>
      rw [find?] at found
      split at found
      next here =>
        cases found
        exact List.mem_cons.2 (Or.inl (by rw [← here]))
      · exact List.mem_cons_of_mem _ (inductionHypothesis found)

/-- No entry of an ordered list hides another one. -/
theorem find?_eq_some_iff {sought : String} {value : Value} {entries : List (String × Value)}
    (increasing : Increasing entries) :
    find? sought entries = some value ↔ (sought, value) ∈ entries := by
  refine ⟨mem_of_find?, ?_⟩
  intro member
  induction entries with
  | nil => cases member
  | cons head rest inductionHypothesis =>
      obtain ⟨above, tail⟩ := List.pairwise_cons.1 increasing
      rcases List.mem_cons.1 member with same | inside
      · simp [← same]
      · have different : ¬ head.1 = sought := by
          intro equal
          have less := above _ inside
          rw [equal] at less
          exact String.lt_irrefl _ less
        rw [find?, if_neg different]
        exact inductionHypothesis tail inside

/-- No later entry has the key of an earlier one. -/
theorem find?_eq_none_of_above {head : String × Value} {rest : List (String × Value)}
    (increasing : Increasing (head :: rest)) : find? head.1 rest = none := by
  obtain ⟨above, _⟩ := List.pairwise_cons.1 increasing
  cases found : find? head.1 rest with
  | none => rfl
  | some value => exact absurd (above _ (mem_of_find? found)) (String.lt_irrefl _)

/-- An ordered list has no entry below its first one. -/
theorem find?_eq_none_of_below {head : String × Value} {rest : List (String × Value)} {key : String}
    (increasing : Increasing (head :: rest)) (below : key < head.1) :
    find? key (head :: rest) = none := by
  cases found : find? key (head :: rest) with
  | none => rfl
  | some value =>
      rcases List.mem_cons.1 (mem_of_find? found) with same | inside
      · rw [← same] at below
        exact absurd below (String.lt_irrefl _)
      · have above := (List.pairwise_cons.1 increasing).1 _ inside
        exact absurd (String.lt_trans below above) (String.lt_irrefl _)

theorem find?_map {Result : Type} (change : String → Value → Result) (sought : String)
    (entries : List (String × Value)) :
    find? sought (entries.map fun entry => (entry.1, change entry.1 entry.2)) =
      (find? sought entries).map (change sought) := by
  induction entries with
  | nil => rfl
  | cons head rest inductionHypothesis =>
      by_cases here : head.1 = sought
      · simp [here]
      · simp [here, inductionHypothesis]

/-- Entries that come in order are only appended. -/
theorem insert_append {key : String} {value : Value} {entries : List (String × Value)}
    (below : ∀ entry ∈ entries, entry.1 < key) :
    insert key value entries = entries ++ [(key, value)] := by
  induction entries with
  | nil => rfl
  | cons head rest inductionHypothesis =>
      have less := below head List.mem_cons_self
      have notGreater : ¬ key < head.1 := fun greater =>
        String.lt_irrefl _ (String.lt_trans less greater)
      have different : ¬ key = head.1 := by
        intro equal
        rw [equal] at less
        exact String.lt_irrefl _ less
      rw [insert, if_neg notGreater, if_neg different,
        inductionHypothesis fun entry member => below entry (List.mem_cons_of_mem _ member)]
      rfl

/-- Entries in order are determined by what can be looked up among them. -/
theorem eq_of_find? {first second : List (String × Value)} (firstIncreasing : Increasing first)
    (secondIncreasing : Increasing second)
    (same : ∀ key, find? key first = find? key second) : first = second := by
  have different {entries : List (String × Value)} (increasing : Increasing entries) :
      entries.Nodup := by
    refine List.Pairwise.imp ?_ increasing
    intro earlier later below equal
    rw [equal] at below
    exact String.lt_irrefl _ below
  have members : first.Perm second := by
    refine (List.perm_ext_iff_of_nodup (different firstIncreasing)
      (different secondIncreasing)).2 ?_
    intro entry
    rw [← find?_eq_some_iff firstIncreasing, ← find?_eq_some_iff secondIncreasing, same]
  refine List.Perm.eq_of_pairwise ?_ firstIncreasing secondIncreasing members
  intro earlier later _ _ below above
  exact absurd (String.lt_trans below above) (String.lt_irrefl _)

/-- A choice of keys can be made before or after the lookup. -/
theorem find?_filter (chosen : String → Bool) (sought : String)
    (entries : List (String × Value)) :
    find? sought (entries.filter fun entry => chosen entry.1) =
      if chosen sought = true then find? sought entries else none := by
  induction entries with
  | nil => simp
  | cons head rest inductionHypothesis =>
      by_cases here : head.1 = sought
      · subst here
        cases wanted : chosen head.1 with
        | true => simp [wanted]
        | false => simpa [wanted] using inductionHypothesis
      · cases wanted : chosen head.1 with
        | true => simpa [wanted, here] using inductionHypothesis
        | false => simpa [wanted, here] using inductionHypothesis

end Entries

namespace Dict

variable {Value : Type}

theorem eq_of_get? {first second : Dict Value} (same : ∀ key, first.get? key = second.get? key) :
    first = second := by
  have entries := Entries.eq_of_find? first.increasing second.increasing same
  cases first
  cases second
  simp_all

/-- A dictionary of dictionaries is determined by its keys and the lookups in two steps. -/
theorem eq_of_bind_get? {first second : Dict (Dict Value)}
    (known : ∀ key, first.contains key = second.contains key)
    (same : ∀ key sought, (first.get? key).bind (fun values => values.get? sought) =
      (second.get? key).bind fun values => values.get? sought) : first = second := by
  apply eq_of_get?
  intro key
  have here := known key
  have values := same key
  unfold contains at here
  cases firstValues : first.get? key with
  | none =>
      cases secondValues : second.get? key with
      | none => rfl
      | some found => simp [firstValues, secondValues] at here
  | some found =>
      cases secondValues : second.get? key with
      | none => simp [firstValues, secondValues] at here
      | some other =>
          simp only [firstValues, secondValues, Option.bind_some] at values
          rw [eq_of_get? values]

theorem get?_eq_some_iff {dict : Dict Value} {key : String} {value : Value} :
    dict.get? key = some value ↔ (key, value) ∈ dict.entries :=
  Entries.find?_eq_some_iff dict.increasing

theorem contains_eq_true_iff {dict : Dict Value} {key : String} :
    dict.contains key = true ↔ ∃ value, dict.get? key = some value := by
  rw [contains, Option.isSome_iff_exists]

theorem contains_eq_false_iff {dict : Dict Value} {key : String} :
    dict.contains key = false ↔ dict.get? key = none := by
  rw [contains, Option.isSome_eq_false_iff, Option.isNone_iff_eq_none]

theorem contains_of_mem {dict : Dict Value} {entry : String × Value}
    (inside : entry ∈ dict.entries) : dict.contains entry.1 = true :=
  contains_eq_true_iff.2 ⟨entry.2, get?_eq_some_iff.2 inside⟩

/-- An insertion removes nothing. -/
theorem contains_insert {dict : Dict Value} {key sought : String} {value : Value}
    (contained : dict.contains sought = true) : (dict.insert key value).contains sought = true := by
  rw [contains, get?_insert]
  split
  · rfl
  · exact contained

theorem mem_keys_iff {dict : Dict Value} {key : String} :
    key ∈ dict.keys ↔ dict.contains key = true := by
  rw [contains_eq_true_iff, keys, List.mem_map]
  constructor
  · rintro ⟨entry, inside, rfl⟩
    exact ⟨entry.2, get?_eq_some_iff.2 inside⟩
  · rintro ⟨value, found⟩
    exact ⟨(key, value), get?_eq_some_iff.1 found, rfl⟩

@[simp] theorem get?_map {Result : Type} (change : String → Value → Result) (dict : Dict Value)
    (key : String) : (dict.map change).get? key = (dict.get? key).map (change key) :=
  Entries.find?_map change key dict.entries

/-- The values that are inserted hide those that were there. -/
theorem get?_insertAll {dict : Dict Value} {entries : List (String × Value)}
    (increasing : Entries.Increasing entries) (key : String) :
    (dict.insertAll entries).get? key = (Entries.find? key entries).or (dict.get? key) := by
  induction entries generalizing dict with
  | nil => rfl
  | cons head rest inductionHypothesis =>
      have tail := @inductionHypothesis (dict.insert head.1 head.2)
        (List.pairwise_cons.1 increasing).2
      have inserted : (dict.insertAll (head :: rest)).get? key =
          ((dict.insert head.1 head.2).insertAll rest).get? key := rfl
      rw [inserted, tail, get?_insert, Entries.find?_cons]
      by_cases here : head.1 = key
      · rw [← here, Entries.find?_eq_none_of_above increasing]
        simp
      · simp [here, Ne.symm here]

theorem insertAll_insertAll (dict first second : Dict Value) :
    (dict.insertAll first.entries).insertAll second.entries =
      dict.insertAll (first.insertAll second.entries).entries := by
  apply eq_of_get?
  intro key
  have both : Entries.find? key (first.insertAll second.entries).entries =
      (Entries.find? key second.entries).or (Entries.find? key first.entries) :=
    get?_insertAll second.increasing key
  rw [get?_insertAll second.increasing, get?_insertAll first.increasing,
    get?_insertAll (first.insertAll second.entries).increasing, both, Option.or_assoc]

theorem insertAll_self (dict : Dict Value) : dict.insertAll dict.entries = dict := by
  apply eq_of_get?
  intro key
  rw [get?_insertAll dict.increasing]
  show (dict.get? key).or (dict.get? key) = dict.get? key
  cases dict.get? key <;> rfl

theorem insertAll_entries {dict : Dict Value} {entries : List (String × Value)}
    (increasing : Entries.Increasing (dict.entries ++ entries)) :
    (dict.insertAll entries).entries = dict.entries ++ entries := by
  induction entries generalizing dict with
  | nil => simp [insertAll]
  | cons head rest inductionHypothesis =>
      have below : ∀ entry ∈ dict.entries, entry.1 < head.1 := by
        intro entry member
        exact (List.pairwise_append.1 increasing).2.2 entry member head List.mem_cons_self
      have appended : (dict.insert head.1 head.2).entries = dict.entries ++ [head] :=
        Entries.insert_append below
      have shifted : (dict.insert head.1 head.2).entries ++ rest = dict.entries ++ head :: rest := by
        rw [appended, List.append_assoc]
        rfl
      have again : Entries.Increasing ((dict.insert head.1 head.2).entries ++ rest) := by
        rwa [shifted]
      have tail := inductionHypothesis again
      rw [shifted] at tail
      exact tail

/-- The entries of a dictionary make the same dictionary again. -/
theorem ofList_entries (dict : Dict Value) : ofList dict.entries = dict := by
  have entries : (ofList dict.entries).entries = dict.entries :=
    @insertAll_entries _ empty _ dict.increasing
  cases made : ofList dict.entries
  cases dict
  simp_all

end Dict

end ResourceApi
