/-
This file says which namespaces and names a store accepts, and shows that the keys made of them
tell objects apart.
-/

import ResourceApi.Proofs.Text.Slash
import ResourceApi.Store

namespace ResourceApi

/-- A part of a key is not empty and holds no slash and no percent sign. -/
structure IsSegment (text : String) : Prop where
  notEmpty : text ≠ ""
  noSlash : '/' ∉ text.toList
  noPercent : '%' ∉ text.toList
  notHere : text ≠ "."
  notAbove : text ≠ ".."

/-- Stores test elsewhere whether a part of a key is empty. -/
theorem pathSegmentProblem?_eq_none_iff (text : String) :
    pathSegmentProblem? text = none ↔ text = "" ∨ IsSegment text := by
  constructor
  · intro accepted
    unfold pathSegmentProblem? at accepted
    split at accepted
    · cases accepted
    next notStep =>
      split at accepted
      · cases accepted
      next noSlash =>
        split at accepted
        · cases accepted
        next noPercent =>
          by_cases empty : text = ""
          · exact Or.inl empty
          · have steps := not_or.1 notStep
            exact Or.inr ⟨empty, by simpa using noSlash, by simpa using noPercent,
              steps.1, steps.2⟩
  · rintro (rfl | ⟨_, noSlash, noPercent, notHere, notAbove⟩)
    · rfl
    · simp [pathSegmentProblem?, noSlash, noPercent, notHere, notAbove]

theorem isSegment_iff (text : String) :
    IsSegment text ↔ text ≠ "" ∧ pathSegmentProblem? text = none := by
  rw [pathSegmentProblem?_eq_none_iff]
  constructor
  · intro segment
    exact ⟨segment.notEmpty, Or.inr segment⟩
  · rintro ⟨present, accepted⟩
    exact accepted.resolve_left present

namespace Store

variable {Spec Status : Type} {store : Store Spec Status}

/-- This is a store of the kind with the behaviours of the table. -/
def ofKind (kind : Kind Spec Status) (table : Capabilities Spec Status) : Store Spec Status where
  kind := kind
  resource := kind.groupResource
  strategy := .ofKind kind table
  location := ⟨⟨0⟩, "/registry/" ++ kind.plural⟩

theorem checkSpace_map_eq_ok_iff {space given result : String} :
    (checkSpace space).map (fun _ => given) = .ok result ↔
      pathSegmentProblem? space = none ∧ given = result := by
  unfold checkSpace
  split
  next problem found => simp [found, Except.map]
  next accepted => simp [accepted, Except.map]

theorem checkName_eq_ok_iff {name : String} :
    (∃ passed, store.checkName name = .ok passed) ↔ pathSegmentProblem? name = none := by
  unfold checkName
  split
  next problem found => simp [found]
  next accepted => simp [accepted]

/-- These are the namespaces that objects of the kind can be in. -/
def Scopes (store : Store Spec Status) (space : String) : Prop :=
  if store.namespaced then IsSegment space else space = ""

theorem scopes_of_namespaced {space : String} (namespaced : store.namespaced = true) :
    store.Scopes space ↔ IsSegment space := by
  rw [Scopes, if_pos namespaced]

theorem scopes_of_clusterScoped {space : String} (clusterScoped : store.namespaced = false) :
    store.Scopes space ↔ space = "" := by
  rw [Scopes, clusterScoped, if_neg Bool.false_ne_true]

theorem Scopes.noSlash {space : String} (scopes : store.Scopes space) : '/' ∉ space.toList := by
  cases namespaced : store.namespaced with
  | true => exact ((scopes_of_namespaced namespaced).1 scopes).noSlash
  | false =>
      rw [(scopes_of_clusterScoped namespaced).1 scopes]
      simp

theorem space?_ne_empty {context : Context} {space : String}
    (requested : context.space? = some space) : space ≠ "" := by
  have kept := (Option.filter_eq_some_iff.1 requested).2
  simpa using kept

/-- The namespaces of an object and of its request agree, or one is missing. -/
theorem resolveSpace_eq_ok_iff {context : Context} {space resolved : String} :
    store.resolveSpace context space = .ok resolved ↔
      store.Scopes resolved ∧
      (space = resolved ∨
        space = "" ∧ store.namespaced = true ∧ context.space? = some resolved) ∧
      (store.namespaced = true →
        ∀ requested, context.space? = some requested → requested = resolved) := by
  cases namespaced : store.namespaced with
  | false =>
      rw [scopes_of_clusterScoped namespaced, resolveSpace, namespaced]
      by_cases empty : space = ""
      · simp [empty, eq_comm]
      · simp only [empty, if_false]
        grind
  | true =>
      rw [scopes_of_namespaced namespaced, isSegment_iff, resolveSpace, namespaced, if_pos rfl]
      cases asked : context.space? with
      | none =>
          by_cases empty : space = ""
          · simp only [empty, if_true]
            grind
          · simp only [empty, if_false, checkSpace_map_eq_ok_iff]
            grind
      | some requested =>
          have present := space?_ne_empty asked
          by_cases empty : space = ""
          · simp only [empty, if_true, checkSpace_map_eq_ok_iff]
            grind
          · by_cases same : requested = space
            · simp only [empty, same, if_false, if_true, checkSpace_map_eq_ok_iff]
              grind
            · simp only [empty, same, if_false]
              grind

theorem scopes_of_resolveSpace {context : Context} {space resolved : String}
    (settled : store.resolveSpace context space = .ok resolved) : store.Scopes resolved :=
  (resolveSpace_eq_ok_iff.1 settled).1

/-- A settled namespace is settled for good. -/
theorem resolveSpace_again {context : Context} {space resolved : String}
    (settled : store.resolveSpace context space = .ok resolved) :
    store.resolveSpace context resolved = .ok resolved := by
  obtain ⟨scopes, _, agrees⟩ := resolveSpace_eq_ok_iff.1 settled
  exact resolveSpace_eq_ok_iff.2 ⟨scopes, Or.inl rfl, agrees⟩

/-- Where the request names no namespace, that of the object stays. -/
theorem resolveSpace_of_scopes {space : String} (scopes : store.Scopes space) :
    store.resolveSpace {} space = .ok space :=
  resolveSpace_eq_ok_iff.2 ⟨scopes, Or.inl rfl, fun _ _ asked => nomatch asked⟩

theorem addressKey_eq_ok_iff {context : Context} {address : Address} {key : String} :
    store.addressKey context address = .ok key ↔
      IsSegment address.name ∧
      ∃ space, store.resolveSpace context address.space = .ok space ∧
        key = store.key space address.name := by
  unfold addressKey
  by_cases empty : address.name = ""
  · simp [empty, isSegment_iff]
  · rw [if_neg empty, isSegment_iff, ← @checkName_eq_ok_iff _ _ store]
    cases store.checkName address.name with
    | error error => simp
    | ok passed =>
        cases store.resolveSpace context address.space <;> simp [empty, Except.map, eq_comm]

/-- Accepted namespaces and any names make different keys of different pairs. -/
theorem key_inj {firstSpace secondSpace firstName secondName : String}
    (firstScopes : store.Scopes firstSpace) (secondScopes : store.Scopes secondSpace)
    (same : store.key firstSpace firstName = store.key secondSpace secondName) :
    firstSpace = secondSpace ∧ firstName = secondName := by
  have slash : "/".toList = ['/'] := rfl
  have letters := congrArg String.toList same
  cases namespaced : store.namespaced with
  | true =>
      simp only [key, namespaced, if_true, String.toList_append, slash, List.append_assoc,
        List.append_cancel_left_eq, List.cons_append, List.nil_append, List.cons.injEq,
        true_and] at letters
      obtain ⟨sameSpace, sameName⟩ :=
        Text.append_slash_inj firstScopes.noSlash secondScopes.noSlash letters
      exact ⟨String.toList_injective sameSpace, String.toList_injective sameName⟩
  | false =>
      rw [scopes_of_clusterScoped namespaced] at firstScopes secondScopes
      simp only [key, namespaced, Bool.false_eq_true, if_false, String.toList_append, slash,
        List.append_assoc, List.append_cancel_left_eq] at letters
      exact ⟨firstScopes.trans secondScopes.symm, String.toList_injective letters⟩

/-- This is the text that all keys of the store begin with. -/
def keyRoot (store : Store Spec Status) : String :=
  store.location.root ++ "/"

theorem startsWith_keyRoot (space name : String) :
    Text.startsWith (store.key space name) store.keyRoot = true := by
  rw [Text.startsWith_iff]
  unfold key keyRoot
  split
  · exact ⟨(space ++ "/" ++ name).toList, by simp only [String.toList_append, List.append_assoc]⟩
  · exact ⟨name.toList, String.toList_append⟩

theorem startsWith_spaceRoot_iff (namespaced : store.namespaced = true)
    {space other : String} (name : String) (noSlash : '/' ∉ space.toList)
    (otherNoSlash : '/' ∉ other.toList) :
    Text.startsWith (store.key space name) (store.location.root ++ "/" ++ other ++ "/") = true ↔
      space = other := by
  rw [key, if_pos namespaced]
  exact Text.startsWith_part_iff name noSlash otherNoSlash

end Store

end ResourceApi
