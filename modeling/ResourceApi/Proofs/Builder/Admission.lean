/-
This file shows when registered kinds can all join the groups of a server, and what is served once
they have joined.
-/

import ResourceApi.Proofs.Builder.Joining
import ResourceApi.Proofs.Builder.Registration

namespace ResourceApi

open Registration (offers)

/-- The elements of a list with their places are the first one and the later ones. -/
theorem exists_getElem?_cons_iff.{u} {Element : Type u} {head : Element} {rest : List Element}
    {holds : Nat → Element → Prop} :
    (∃ place element, (head :: rest)[place]? = some element ∧ holds place element) ↔
      holds 0 head ∨ ∃ place element, rest[place]? = some element ∧ holds (place + 1) element := by
  constructor
  · rintro ⟨place, element, found, held⟩
    cases place with
    | zero =>
        cases found
        exact Or.inl held
    | succ place => exact Or.inr ⟨place, element, found, held⟩
  · rintro (held | ⟨place, element, found, held⟩)
    · exact ⟨0, head, rfl, held⟩
    · exact ⟨place + 1, element, found, held⟩

namespace Builder

variable {State : Type} {config : CompletedConfig State} {registrations : List (Registration State)}
  {groups result : Dict ApiGroup}

/-- Every kind gets its store, and no two kinds want the same place. -/
structure Joinable (locate : Locator) (groups : Dict ApiGroup) (name : String)
    (registrations : List (Registration State)) : Prop where
  opened : ∀ registration ∈ registrations, ∃ store, registration.store locate = .ok store
  disjoint : registrations.Pairwise fun first second => ¬ first.Clash second
  free : ∀ registration ∈ registrations, ∀ version entry,
    registration.Contributes version entry → endpointIn groups name version entry = none

/-- A registration joins where everything it contributes has a free place. -/
theorem joinGroup_registration_iff {registration : Registration State}
    {store : Store registration.Spec registration.Status}
    (opened : registration.store config.locate = .ok store)
    (named : registration.kind.group ≠ "") (number : Nat) :
    (∃ joined, joinGroup groups ((registration.group store).contributedBy number) = .ok joined) ↔
      ∀ version entry, registration.Contributes version entry →
        endpointIn groups registration.kind.group version entry = none := by
  have home := Registration.home_group store number
  constructor
  · rintro ⟨joined, done⟩ version entry contributes
    have free := (endpointIn_of_joinGroup done).1 version entry
    rw [home, Registration.find?_group_eq_none_iff opened] at free
    exact free.resolve_right fun nothing => nothing contributes
  · intro free
    refine joinGroup_of_free (by rw [home]; exact named) fun version entry => ?_
    rw [home, Registration.find?_group_eq_none_iff opened]
    by_cases contributes : registration.Contributes version entry
    · exact Or.inl (free version entry contributes)
    · exact Or.inr contributes

section Joined

variable {registration : Registration State}
  {store : Store registration.Spec registration.Status} {number : Nat} {joined : Dict ApiGroup}

/-- After a registration has joined, the places that were free and not its own are free. -/
theorem endpointIn_joined_eq_none_iff (opened : registration.store config.locate = .ok store)
    (done : joinGroup groups ((registration.group store).contributedBy number) = .ok joined)
    (version entry : String) :
    endpointIn joined registration.kind.group version entry = none ↔
      endpointIn groups registration.kind.group version entry = none ∧
        ¬ registration.Contributes version entry := by
  have home := Registration.home_group store number
  rw [(endpointIn_of_joinGroup done).2, if_pos home.symm, Option.or_eq_none_iff,
    Registration.find?_group_eq_none_iff opened]

/-- A registration that joins adds its adapters and takes nothing away. -/
theorem endpointIn_joined_eq_some_iff (opened : registration.store config.locate = .ok store)
    (done : joinGroup groups ((registration.group store).contributedBy number) = .ok joined)
    (name version entry : String) (endpoint : Endpoint) :
    endpointIn joined name version entry = some endpoint ↔
      endpointIn groups name version entry = some endpoint ∨
        (registration.kind.group = name ∧ registration.Lists version ∧
          registration.Adapter config.locate number entry endpoint) := by
  obtain ⟨free, union⟩ := endpointIn_of_joinGroup done
  rw [Registration.home_group] at free union
  rw [union, Option.or_eq_some_iff]
  by_cases here : name = registration.kind.group
  · subst here
    rw [if_pos rfl, ← Registration.find?_group_eq_some_iff opened]
    constructor
    · rintro (before | ⟨_, own⟩)
      · exact Or.inl before
      · exact Or.inr ⟨rfl, own⟩
    · rintro (before | ⟨_, own⟩)
      · exact Or.inl before
      · refine Or.inr ⟨(free version entry).resolve_right ?_, own⟩
        simp [own]
  · simp [here, Ne.symm here]

end Joined

/-- Registrations can be joined exactly where they are disjoint and can have their stores. -/
theorem joinContributions_iff {name : String} (named : name ≠ "")
    (oneGroup : ∀ registration ∈ registrations, registration.kind.group = name) (number : Nat) :
    (∃ result, joinContributions config number (offers registrations) groups =
      .ok result) ↔ Joinable config.locate groups name registrations := by
  induction registrations generalizing number groups with
  | nil => exact ⟨fun _ => ⟨by simp, .nil, by simp⟩, fun _ => ⟨groups, rfl⟩⟩
  | cons head rest inductionHypothesis =>
      have inGroup : head.kind.group = name := oneGroup head List.mem_cons_self
      subst inGroup
      have restInGroup : ∀ registration ∈ rest, registration.kind.group = head.kind.group :=
        fun registration inside => oneGroup registration (List.mem_cons_of_mem _ inside)
      constructor
      · rintro ⟨result, done⟩
        obtain ⟨group, joined, contributed, joins, tail⟩ :=
          joinContributions_cons_eq_ok_iff.1 done
        obtain ⟨store, opened, rfl⟩ := Registration.contribute_eq_ok_iff.1 contributed
        have free := (joinGroup_registration_iff opened named number).1 ⟨joined, joins⟩
        have later := (inductionHypothesis restInGroup (number + 1)).1 ⟨result, tail⟩
        have freeLater := fun registration inside version entry contributes =>
          (endpointIn_joined_eq_none_iff opened joins version entry).1
            (later.free registration inside version entry contributes)
        refine ⟨?_, List.pairwise_cons.2 ⟨?_, later.disjoint⟩, ?_⟩
        · exact List.forall_mem_cons.2 ⟨⟨store, opened⟩, later.opened⟩
        · rintro registration inside ⟨version, entry, ofHead, ofRegistration⟩
          exact (freeLater registration inside version entry ofRegistration).2 ofHead
        · refine List.forall_mem_cons.2 ⟨free, ?_⟩
          intro registration inside version entry contributes
          exact (freeLater registration inside version entry contributes).1
      · intro joinable
        obtain ⟨⟨store, opened⟩, openedRest⟩ := List.forall_mem_cons.1 joinable.opened
        obtain ⟨apart, disjointRest⟩ := List.pairwise_cons.1 joinable.disjoint
        obtain ⟨free, freeRest⟩ := List.forall_mem_cons.1 joinable.free
        obtain ⟨joined, joins⟩ := (joinGroup_registration_iff opened named number).2 free
        have joinableRest : Joinable config.locate joined head.kind.group rest := by
          refine ⟨openedRest, disjointRest, ?_⟩
          intro registration inside version entry contributes
          refine (endpointIn_joined_eq_none_iff opened joins version entry).2
            ⟨freeRest registration inside version entry contributes, ?_⟩
          intro ofHead
          exact apart registration inside ⟨version, entry, ofHead, contributes⟩
        obtain ⟨result, tail⟩ := (inductionHypothesis restInGroup (number + 1)).2 joinableRest
        exact ⟨result, joinContributions_cons_eq_ok_iff.2
          ⟨_, joined, Registration.contribute_eq_ok_iff.2 ⟨store, opened, rfl⟩, joins, tail⟩⟩

/-- What is served in the end was served before, or is the adapter of a registration. -/
theorem endpointIn_of_joinContributions {number : Nat}
    (done : joinContributions config number (offers registrations) groups = .ok result)
    (name version entry : String) (endpoint : Endpoint) :
    endpointIn result name version entry = some endpoint ↔
      endpointIn groups name version entry = some endpoint ∨
        ∃ (place : Nat) (registration : Registration State),
          registrations[place]? = some registration ∧ registration.kind.group = name ∧
            registration.Lists version ∧
              registration.Adapter config.locate (number + place) entry endpoint := by
  induction registrations generalizing number groups with
  | nil =>
      cases done
      simp
  | cons head rest inductionHypothesis =>
      obtain ⟨group, joined, contributed, joins, tail⟩ := joinContributions_cons_eq_ok_iff.1 done
      obtain ⟨store, opened, rfl⟩ := Registration.contribute_eq_ok_iff.1 contributed
      have shifted (place : Nat) : number + 1 + place = number + (place + 1) := by omega
      rw [inductionHypothesis tail, endpointIn_joined_eq_some_iff opened joins, or_assoc,
        exists_getElem?_cons_iff]
      simp only [shifted, Nat.add_zero]

theorem wellNamed_of_joinContributions {number : Nat} (wellNamed : WellNamed groups.entries)
    (done : joinContributions config number (offers registrations) groups = .ok result) :
    WellNamed result.entries := by
  induction registrations generalizing number groups with
  | nil =>
      cases done
      exact wellNamed
  | cons head rest inductionHypothesis =>
      obtain ⟨group, joined, contributed, joins, tail⟩ := joinContributions_cons_eq_ok_iff.1 done
      obtain ⟨store, _, rfl⟩ := Registration.contribute_eq_ok_iff.1 contributed
      have own : ((head.group store).contributedBy number).name =
          ((head.group store).contributedBy number).home :=
        (Registration.home_group store number).symm
      exact inductionHypothesis (wellNamed_of_joinGroup wellNamed own joins) tail

end Builder

end ResourceApi
