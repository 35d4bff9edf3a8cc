/-
This file shows what the passes over the components of a registry do. Requests change the components
that they name, and a mapping changes its target.
-/

import ResourceApi.Proofs.Dict
import ResourceApi.Registry

namespace ResourceApi

/-- The target follows the version that the source emulates, or stays where none is mapped. -/
def EmulationMapping.move (mapping : EmulationMapping) (source target : Component) : Component :=
  (mapping.mapping source.version.emulation).elim target (Registry.emulate target)

theorem EmulationMapping.move_binary (mapping : EmulationMapping) (source target : Component) :
    (mapping.move source target).version.binary = target.version.binary := by
  unfold move
  cases mapping.mapping source.version.emulation <;> rfl

theorem EmulationMapping.move_emulation (mapping : EmulationMapping) (source target : Component) :
    (mapping.move source target).version.emulation =
      (mapping.mapping source.version.emulation).elim target.version.emulation
        Version.majorMinor := by
  unfold move
  cases mapping.mapping source.version.emulation <;> rfl

/-- These are the components after the mapping has been carried out with this source. -/
def EmulationMapping.carry (mapping : EmulationMapping) (source : Component)
    (components : Dict Component) : Dict Component :=
  match mapping.mapping source.version.emulation, components.get? mapping.target with
  | some version, some target =>
      components.insert mapping.target (Registry.emulate target version)
  | _, _ => components

/-- The one component that a mapping can change is its target. -/
theorem EmulationMapping.get?_carry (mapping : EmulationMapping) (source : Component)
    (components : Dict Component) (name : String) :
    (mapping.carry source components).get? name = if name = mapping.target
      then (components.get? name).map (mapping.move source) else components.get? name := by
  unfold carry
  split
  next version target mapped known =>
    rw [Dict.get?_insert]
    by_cases here : name = mapping.target
    · rw [if_pos here, if_pos here, here, known, Option.map_some, move, mapped]
      rfl
    · rw [if_neg here, if_neg here]
  next other =>
    by_cases here : name = mapping.target
    · rw [if_pos here, here]
      cases known : components.get? mapping.target with
      | none => rfl
      | some target =>
          have unmapped : mapping.mapping source.version.emulation = none :=
            Option.eq_none_iff_forall_ne_some.2 fun version mapped =>
              other version target mapped known
          rw [Option.map_some, move, unmapped]
          rfl
    · rw [if_neg here]

namespace Registry

variable {components result : Dict Component}

/-- A change that reaches its end has changed all that were named. -/
theorem changeAll_ok {Wanted : Type} {change : Component → Wanted → Component}
    {entries : List (String × Wanted)} (increasing : Entries.Increasing entries)
    (done : changeAll change entries components = (.ok (), result)) (name : String) :
    result.get? name = (components.get? name).map (fun component =>
        (Entries.find? name entries).elim component (change component)) ∧
      ((Entries.find? name entries).isSome → (components.get? name).isSome) := by
  induction entries generalizing components with
  | nil =>
      cases done
      simp
  | cons head rest inductionHypothesis =>
      obtain ⟨key, wanted⟩ := head
      rw [changeAll] at done
      split at done
      · cases done
      next component registered =>
        have tail := inductionHypothesis (List.pairwise_cons.1 increasing).2 done
        by_cases here : key = name
        · subst here
          have last := Entries.find?_eq_none_of_above increasing
          simp_all
        · have elsewhere : ¬ name = key := Ne.symm here
          simpa [here, elsewhere] using tail

/-- A change reaches its end if every component that it names is registered. -/
theorem exists_changeAll {Wanted : Type} {change : Component → Wanted → Component}
    {entries : List (String × Wanted)}
    (registered : ∀ entry ∈ entries, components.contains entry.1 = true) :
    ∃ result, changeAll change entries components = (.ok (), result) := by
  induction entries generalizing components with
  | nil => exact ⟨components, rfl⟩
  | cons head rest inductionHypothesis =>
      obtain ⟨component, found⟩ :=
        Dict.contains_eq_true_iff.1 (registered head List.mem_cons_self)
      rw [changeAll, found]
      refine inductionHypothesis fun entry inside => ?_
      exact Dict.contains_insert (registered entry (List.mem_cons_of_mem _ inside))

/-- A change that fails has changed the components before the unknown one. -/
theorem changeAll_error {Wanted : Type} {change : Component → Wanted → Component}
    {entries : List (String × Wanted)} (increasing : Entries.Increasing entries)
    {error : VersionError} (failed : changeAll change entries components = (.error error, result)) :
    ∃ missing, error = .unknownComponent missing ∧
      (Entries.find? missing entries).isSome = true ∧ components.get? missing = none ∧
      (∀ name, name < missing → (Entries.find? name entries).isSome = true →
        (components.get? name).isSome = true) ∧
      ∀ name, result.get? name = (components.get? name).map fun component =>
        if name < missing then (Entries.find? name entries).elim component (change component)
        else component := by
  induction entries generalizing components with
  | nil => cases failed
  | cons head rest inductionHypothesis =>
      obtain ⟨key, wanted⟩ := head
      rw [changeAll] at failed
      split at failed
      next unknown =>
        cases failed
        have nothingBelow (name : String) (below : name < key) :
            Entries.find? name ((key, wanted) :: rest) = none :=
          Entries.find?_eq_none_of_below increasing below
        refine ⟨key, rfl, by simp, unknown, ?_, ?_⟩
        · intro name below named
          rw [nothingBelow name below] at named
          cases named
        · intro name
          by_cases below : name < key
          · simp [below, nothingBelow name below]
          · simp [below]
      next component registered =>
        have last := Entries.find?_eq_none_of_above increasing
        obtain ⟨missing, reported, named, unknown, known, changed⟩ :=
          inductionHypothesis (List.pairwise_cons.1 increasing).2 failed
        have other : ¬ key = missing := by
          intro same
          rw [← same, last] at named
          cases named
        have above : key < missing := by
          obtain ⟨value, found⟩ := Option.isSome_iff_exists.1 named
          exact (List.pairwise_cons.1 increasing).1 _ (Entries.mem_of_find? found)
        rw [Dict.get?_insert, if_neg (Ne.symm other)] at unknown
        refine ⟨missing, reported, ?_, unknown, ?_, ?_⟩
        · rw [Entries.find?_cons, if_neg other]
          exact named
        · intro name below asked
          by_cases here : key = name
          · rw [← here, registered]
            rfl
          · rw [Entries.find?_cons, if_neg here] at asked
            have stays := known name below asked
            rwa [Dict.get?_insert, if_neg (Ne.symm here)] at stays
        · intro name
          rw [changed name, Dict.get?_insert]
          by_cases here : key = name
          · subst here
            simp [registered, above, last]
          · simp [here, Ne.symm here]

/-- A mapping changes nothing but the emulated version, and no requested one. -/
structure Follows (requests : Dict Version) (name : String) (before after : Component) : Prop where
  gate : after.gate = before.gate
  binary : after.version.binary = before.version.binary
  plain : before.version.emulation.majorMinor = before.version.emulation →
    after.version.emulation.majorMinor = after.version.emulation
  requested : requests.contains name = true → after = before

theorem Follows.refl (requests : Dict Version) (name : String) (component : Component) :
    Follows requests name component component :=
  ⟨rfl, rfl, id, fun _ => rfl⟩

theorem Follows.trans {requests : Dict Version} {name : String} {first second third : Component}
    (before : Follows requests name first second) (after : Follows requests name second third) :
    Follows requests name first third where
  gate := after.gate.trans before.gate
  binary := after.binary.trans before.binary
  plain := after.plain ∘ before.plain
  requested := fun requested => (after.requested requested).trans (before.requested requested)

theorem follows_emulate {requests : Dict Version} {name : String}
    (free : ¬ requests.contains name = true) (component : Component) (version : Version) :
    Follows requests name component (emulate component version) :=
  ⟨rfl, rfl, fun _ => rfl, fun requested => absurd requested free⟩

theorem follows_rel_trans {requests : Dict Version} {name : String}
    {first second third : Option Component}
    (before : Option.Rel (Follows requests name) first second)
    (after : Option.Rel (Follows requests name) second third) :
    Option.Rel (Follows requests name) first third := by
  cases before with
  | none => exact after
  | some step =>
      cases after with
      | some further => exact .some (step.trans further)

/-- A mapping changes its target alone, unless that was requested. -/
structure Moves (requests : Dict Version) (mapping : EmulationMapping)
    (components next : Dict Component) : Prop where
  requested : requests.contains mapping.target = true → next = components
  free : requests.contains mapping.target = false →
    ∃ source, components.get? mapping.source = some source ∧
      ∀ name, next.get? name = if name = mapping.target
        then (components.get? name).map (mapping.move source) else components.get? name

section Moves

variable {requests : Dict Version} {mapping : EmulationMapping} {rest : List EmulationMapping}
  {next : Dict Component} {name : String}

/-- A mapping does not find its source, or the others go on behind it. -/
theorem applyMappings_cons (requests : Dict Version) (mapping : EmulationMapping)
    (components : Dict Component) :
    (components.get? mapping.source = none ∧ ∀ rest,
      applyMappings requests (mapping :: rest) components =
        (.error (.unknownComponent mapping.source), components)) ∨
    ∃ next, Moves requests mapping components next ∧ ∀ rest,
      applyMappings requests (mapping :: rest) components = applyMappings requests rest next := by
  cases free : requests.contains mapping.target with
  | true =>
      refine Or.inr ⟨components, ⟨fun _ => rfl, by simp [free]⟩, fun rest => ?_⟩
      rw [applyMappings, if_pos free]
  | false =>
      have carried : ¬ requests.contains mapping.target = true := by simp [free]
      cases found : components.get? mapping.source with
      | none =>
          refine Or.inl ⟨rfl, fun rest => ?_⟩
          rw [applyMappings, if_neg carried, found]
      | some source =>
          refine Or.inr ⟨mapping.carry source components,
            ⟨by simp [free], fun _ => ⟨source, found, mapping.get?_carry source components⟩⟩, ?_⟩
          intro rest
          rw [applyMappings, if_neg carried, found]
          dsimp only [EmulationMapping.carry]
          cases mapping.mapping source.version.emulation <;>
            cases components.get? mapping.target <;> rfl

theorem applyMappings_cons_ok
    (done : applyMappings requests (mapping :: rest) components = (.ok (), result)) :
    ∃ next, Moves requests mapping components next ∧
      applyMappings requests rest next = (.ok (), result) := by
  rcases applyMappings_cons requests mapping components with ⟨_, fails⟩ | ⟨next, moves, runs⟩
  · rw [fails] at done
    cases done
  · exact ⟨next, moves, runs rest ▸ done⟩

theorem Moves.get?_of_ne (moves : Moves requests mapping components next)
    (elsewhere : requests.contains mapping.target = false → mapping.target ≠ name) :
    next.get? name = components.get? name := by
  cases free : requests.contains mapping.target with
  | true => rw [moves.requested free]
  | false =>
      obtain ⟨source, _, stands⟩ := moves.free free
      rw [stands, if_neg (Ne.symm (elsewhere free))]

theorem Moves.follows (moves : Moves requests mapping components next) (name : String) :
    Option.Rel (Follows requests name) (components.get? name) (next.get? name) := by
  by_cases here : requests.contains mapping.target = false ∧ mapping.target = name
  · obtain ⟨free, rfl⟩ := here
    obtain ⟨source, _, stands⟩ := moves.free free
    rw [stands, if_pos rfl]
    cases components.get? mapping.target with
    | none => exact .none
    | some target =>
        refine .some ?_
        unfold EmulationMapping.move
        cases mapping.mapping source.version.emulation with
        | none => exact .refl requests mapping.target target
        | some version => exact follows_emulate (by simp [free]) target version
  · rw [moves.get?_of_ne fun free same => here ⟨free, same⟩]
    cases components.get? name with
    | none => exact .none
    | some component => exact .some (.refl requests name component)

/-- A mapping keeps every component registered and registers none. -/
theorem Moves.contains (moves : Moves requests mapping components next) (name : String) :
    next.contains name = components.contains name := by
  have related := moves.follows name
  unfold Dict.contains
  generalize next.get? name = after at related ⊢
  generalize components.get? name = before at related ⊢
  cases related <;> rfl

end Moves

/-- Mappings keep every component registered. -/
theorem applyMappings_ok {requests : Dict Version} {mappings : List EmulationMapping}
    (done : applyMappings requests mappings components = (.ok (), result)) (name : String) :
    Option.Rel (Follows requests name) (components.get? name) (result.get? name) := by
  induction mappings generalizing components with
  | nil =>
      cases done
      cases result.get? name with
      | none => exact .none
      | some component => exact .some (.refl requests name component)
  | cons mapping rest inductionHypothesis =>
      obtain ⟨next, moves, further⟩ := applyMappings_cons_ok done
      exact follows_rel_trans (moves.follows name) (inductionHypothesis further)

end Registry

end ResourceApi
