/-
This file defines dictionaries from texts to values. Their entries stand in the order of their
keys, so two dictionaries with the same lookups are equal.
-/

namespace ResourceApi

namespace Entries

variable {Value Result : Type}

def find? (key : String) : List (String × Value) → Option Value
  | [] => none
  | entry :: rest => if entry.1 = key then some entry.2 else find? key rest

/-- The entry goes before the first greater key and takes the place of an equal one. -/
def insert (key : String) (value : Value) : List (String × Value) → List (String × Value)
  | [] => [(key, value)]
  | entry :: rest =>
      if key < entry.1 then (key, value) :: entry :: rest
      else if key = entry.1 then (key, value) :: rest
      else entry :: insert key value rest

def erase (key : String) (entries : List (String × Value)) : List (String × Value) :=
  entries.filter fun entry => !(entry.1 == key)

/-- This is the order of entries that every dictionary keeps. -/
def Increasing (entries : List (String × Value)) : Prop :=
  entries.Pairwise fun first second => first.1 < second.1

theorem mem_insert {key : String} {value : Value} {entry : String × Value}
    {entries : List (String × Value)} (member : entry ∈ insert key value entries) :
    entry = (key, value) ∨ entry ∈ entries := by
  induction entries with
  | nil => simpa [insert] using member
  | cons head rest inductionHypothesis =>
      simp only [insert] at member
      split at member
      · simpa using member
      · split at member
        · rcases List.mem_cons.1 member with same | inside
          · exact Or.inl same
          · exact Or.inr (List.mem_cons_of_mem _ inside)
        · rcases List.mem_cons.1 member with same | inside
          · exact Or.inr (by simp [same])
          · rcases inductionHypothesis inside with same | inside
            · exact Or.inl same
            · exact Or.inr (List.mem_cons_of_mem _ inside)

theorem increasing_insert (key : String) (value : Value) {entries : List (String × Value)}
    (increasing : Increasing entries) : Increasing (insert key value entries) := by
  induction entries with
  | nil => simp [insert, Increasing]
  | cons head rest inductionHypothesis =>
      obtain ⟨above, tail⟩ := List.pairwise_cons.1 increasing
      simp only [insert]
      split
      next smaller =>
        refine List.pairwise_cons.2 ⟨?_, increasing⟩
        intro entry member
        rcases List.mem_cons.1 member with same | inside
        · simpa [same] using smaller
        · exact String.lt_trans smaller (above entry inside)
      next notSmaller =>
        split
        next same =>
          subst same
          exact List.pairwise_cons.2 ⟨above, tail⟩
        next different =>
          refine List.pairwise_cons.2 ⟨?_, inductionHypothesis tail⟩
          intro entry member
          rcases mem_insert member with same | inside
          · subst same
            rcases Std.lt_trichotomy key head.1 with less | equal | greater
            · exact absurd less notSmaller
            · exact absurd equal different
            · exact greater
          · exact above entry inside

theorem increasing_erase (key : String) {entries : List (String × Value)}
    (increasing : Increasing entries) : Increasing (erase key entries) :=
  List.Pairwise.filter _ increasing

theorem increasing_map (change : String → Value → Result) {entries : List (String × Value)}
    (increasing : Increasing entries) :
    Increasing (entries.map fun entry => (entry.1, change entry.1 entry.2)) := by
  unfold Increasing
  rw [List.pairwise_map]
  exact increasing

theorem find?_insert (key sought : String) (value : Value) {entries : List (String × Value)}
    (increasing : Increasing entries) :
    find? sought (insert key value entries) =
      if sought = key then some value else find? sought entries := by
  induction entries with
  | nil => simp [insert, find?, eq_comm]
  | cons head rest inductionHypothesis =>
      have tail := (List.pairwise_cons.1 increasing).2
      simp only [insert]
      split
      · simp [find?, eq_comm]
      · split
        next same =>
          by_cases sameKey : sought = key
          · simp [find?, sameKey]
          · have otherKey : ¬ key = sought := fun equal => sameKey equal.symm
            have otherHead : ¬ head.1 = sought := by rw [← same]; exact otherKey
            simp [find?, sameKey, otherKey, otherHead]
        next different =>
          by_cases sameKey : head.1 = sought
          · have otherKey : ¬ sought = key := by
              intro equal
              exact different (by rw [sameKey, equal])
            simp [find?, sameKey, otherKey]
          · simp [find?, sameKey, inductionHypothesis tail]

theorem find?_erase (key sought : String) (entries : List (String × Value)) :
    find? sought (erase key entries) = if sought = key then none else find? sought entries := by
  induction entries with
  | nil => simp [erase, find?]
  | cons head rest inductionHypothesis =>
      unfold erase at inductionHypothesis
      rw [erase, List.filter_cons]
      by_cases sameKey : head.1 = key
      · have dropped : (!(head.1 == key)) = false := by simp [sameKey]
        rw [dropped, if_neg Bool.false_ne_true, inductionHypothesis]
        by_cases sameSought : sought = key
        · simp [sameSought]
        · have otherHead : ¬ head.1 = sought := by
            rw [sameKey]
            exact fun equal => sameSought equal.symm
          simp [sameSought, find?, otherHead]
      · have kept : (!(head.1 == key)) = true := by simp [sameKey]
        rw [if_pos kept, find?, inductionHypothesis]
        by_cases sameSought : sought = key
        · simp [sameSought, sameKey]
        · simp [sameSought, find?]

end Entries

/-- A dictionary holds at most one value for each key. -/
structure Dict (Value : Type) where
  entries : List (String × Value)
  increasing : Entries.Increasing entries

namespace Dict

variable {Value Result : Type}

def empty : Dict Value := ⟨[], List.Pairwise.nil⟩

instance : Inhabited (Dict Value) := ⟨empty⟩

instance [DecidableEq Value] : DecidableEq (Dict Value) := fun first second =>
  if same : first.entries = second.entries then
    isTrue (by cases first; cases second; simp_all)
  else isFalse (by intro equal; exact same (by rw [equal]))

def get? (dict : Dict Value) (key : String) : Option Value :=
  Entries.find? key dict.entries

def contains (dict : Dict Value) (key : String) : Bool :=
  (dict.get? key).isSome

def insert (dict : Dict Value) (key : String) (value : Value) : Dict Value :=
  ⟨Entries.insert key value dict.entries, Entries.increasing_insert key value dict.increasing⟩

def erase (dict : Dict Value) (key : String) : Dict Value :=
  ⟨Entries.erase key dict.entries, Entries.increasing_erase key dict.increasing⟩

def keys (dict : Dict Value) : List String :=
  dict.entries.map Prod.fst

def values (dict : Dict Value) : List Value :=
  dict.entries.map Prod.snd

def size (dict : Dict Value) : Nat :=
  dict.entries.length

def isEmpty (dict : Dict Value) : Bool :=
  dict.entries.isEmpty

def map (change : String → Value → Result) (dict : Dict Value) : Dict Result :=
  ⟨dict.entries.map fun entry => (entry.1, change entry.1 entry.2),
    Entries.increasing_map change dict.increasing⟩

/-- Where a key is written twice, its last value stays. -/
def insertAll (dict : Dict Value) (entries : List (String × Value)) : Dict Value :=
  entries.foldl (fun result entry => result.insert entry.1 entry.2) dict

def ofList (entries : List (String × Value)) : Dict Value :=
  empty.insertAll entries

def singleton (key : String) (value : Value) : Dict Value :=
  empty.insert key value

@[simp] theorem get?_empty (key : String) : (empty : Dict Value).get? key = none := rfl

@[simp] theorem get?_insert (dict : Dict Value) (key sought : String) (value : Value) :
    (dict.insert key value).get? sought = if sought = key then some value else dict.get? sought :=
  Entries.find?_insert key sought value dict.increasing

@[simp] theorem get?_erase (dict : Dict Value) (key sought : String) :
    (dict.erase key).get? sought = if sought = key then none else dict.get? sought :=
  Entries.find?_erase key sought dict.entries

end Dict

end ResourceApi
