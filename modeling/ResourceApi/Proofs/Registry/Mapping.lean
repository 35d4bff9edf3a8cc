/-
This file says when a mapped component is in step with its source. Mappings are carried out once, in
the order in which they were added, so the order of a chain counts.
-/

import ResourceApi.Proofs.Registry.Settlement
import ResourceApi.Proofs.Registry.Wiring

namespace ResourceApi.Registry

section Order

/-- None of the mappings that are carried out leads to the component. -/
def Unmoved (requests : Dict Version) (mappings : List EmulationMapping) (name : String) : Prop :=
  ∀ mapping ∈ mappings, requests.contains mapping.target = false → mapping.target ≠ name

/-- No mapping changes a component that another one has followed before. -/
def AnchorsFirst (requests : Dict Version) (mappings : List EmulationMapping) : Prop :=
  mappings.Pairwise fun earlier later =>
    requests.contains later.target = false → later.target ≠ earlier.source

variable {requests : Dict Version} {mapping : EmulationMapping}
  {mappings rest before after : List EmulationMapping}

theorem anchorsFirst_cons :
    AnchorsFirst requests (mapping :: rest) ↔
      Unmoved requests rest mapping.source ∧ AnchorsFirst requests rest :=
  List.pairwise_cons

theorem AnchorsFirst.unmoved (ordered : AnchorsFirst requests (before ++ mapping :: after)) :
    Unmoved requests after mapping.source :=
  (anchorsFirst_cons.1 (List.pairwise_append.1 ordered).2.1).1

/-- Mappings without a cycle can be put in an order in which the anchors come first. -/
theorem exists_anchorsFirst (rank : String → Nat)
    (acyclic : ∀ mapping ∈ mappings, rank mapping.source < rank mapping.target) :
    ∃ order, order.Perm mappings ∧ AnchorsFirst requests order := by
  let notAbove (earlier later : EmulationMapping) : Bool :=
    rank earlier.target ≤ rank later.target
  have transitive (first second third : EmulationMapping) (left : notAbove first second = true)
      (right : notAbove second third = true) : notAbove first third = true := by
    simp only [notAbove, decide_eq_true_eq] at left right ⊢
    omega
  have total (first second : EmulationMapping) :
      (notAbove first second || notAbove second first) = true := by
    simp only [notAbove, Bool.or_eq_true, decide_eq_true_eq]
    omega
  have same : (mappings.mergeSort notAbove).Perm mappings := List.mergeSort_perm mappings notAbove
  have sorted := List.pairwise_mergeSort transitive total mappings
  refine ⟨_, same, sorted.imp_of_mem ?_⟩
  intro earlier later inside _ below _ follows
  have above := acyclic earlier (same.mem_iff.1 inside)
  simp only [notAbove, decide_eq_true_eq, follows] at below
  omega

end Order

section Pass

variable {requests : Dict Version} {mapping : EmulationMapping}
  {mappings rest before after : List EmulationMapping} {components result : Dict Component}

theorem applyMappings_unmoved {name : String} (unmoved : Unmoved requests mappings name)
    (done : applyMappings requests mappings components = (.ok (), result)) :
    result.get? name = components.get? name := by
  induction mappings generalizing components with
  | nil => cases done; rfl
  | cons mapping rest inductionHypothesis =>
      obtain ⟨here, later⟩ := List.forall_mem_cons.1 unmoved
      obtain ⟨next, moves, further⟩ := applyMappings_cons_ok done
      rw [inductionHypothesis later further, moves.get?_of_ne here]

/-- A run over two lists of mappings goes over the one and then over the other. -/
theorem applyMappings_append
    (done : applyMappings requests (before ++ after) components = (.ok (), result)) :
    ∃ middle, applyMappings requests before components = (.ok (), middle) ∧
      applyMappings requests after middle = (.ok (), result) := by
  induction before generalizing components with
  | nil => exact ⟨components, rfl, done⟩
  | cons mapping rest inductionHypothesis =>
      rw [List.cons_append] at done
      rcases applyMappings_cons requests mapping components with ⟨_, fails⟩ | ⟨next, _, runs⟩
      · rw [fails] at done
        cases done
      · rw [runs] at done ⊢
        exact inductionHypothesis done

theorem exists_applyMappings
    (registered : ∀ mapping ∈ mappings, components.contains mapping.source = true) :
    ∃ result, applyMappings requests mappings components = (.ok (), result) := by
  induction mappings generalizing components with
  | nil => exact ⟨components, rfl⟩
  | cons mapping rest inductionHypothesis =>
      obtain ⟨here, later⟩ := List.forall_mem_cons.1 registered
      rcases applyMappings_cons requests mapping components with ⟨unknown, _⟩ | ⟨next, moves, runs⟩
      · rw [Dict.contains_eq_false_iff.2 unknown] at here
        cases here
      · rw [runs]
        refine inductionHypothesis fun other inside => ?_
        rw [moves.contains]
        exact later other inside

/-- No other mapping moves the target, but the source may still be moved afterwards. -/
theorem applyMappings_turn (single : (before ++ mapping :: after).Pairwise fun earlier later =>
      earlier.target ≠ later.target)
    (free : requests.contains mapping.target = false)
    (done : applyMappings requests (before ++ mapping :: after) components = (.ok (), result)) :
    ∃ middle source, applyMappings requests before components = (.ok (), middle) ∧
      middle.get? mapping.source = some source ∧
      result.get? mapping.target = (components.get? mapping.target).map (mapping.move source) ∧
      (mapping.source ≠ mapping.target → Unmoved requests after mapping.source →
        result.get? mapping.source = some source) := by
  obtain ⟨_, singleBehind, singleAcross⟩ := List.pairwise_append.1 single
  have notBefore : Unmoved requests before mapping.target := fun other inside _ =>
    singleAcross other inside mapping List.mem_cons_self
  have notAfter : Unmoved requests after mapping.target := fun other inside _ =>
    Ne.symm ((List.pairwise_cons.1 singleBehind).1 other inside)
  obtain ⟨middle, first, second⟩ := applyMappings_append done
  obtain ⟨next, moves, further⟩ := applyMappings_cons_ok second
  obtain ⟨source, found, stands⟩ := moves.free free
  refine ⟨middle, source, first, found, ?_, ?_⟩
  · rw [applyMappings_unmoved notAfter further, stands, if_pos rfl,
      applyMappings_unmoved notBefore first]
  · intro apart unmoved
    rw [applyMappings_unmoved unmoved further, stands, if_neg apart, found]

end Pass

/-- The components after all mappings solve the equations that the mappings state. -/
structure Solves (requests : Dict Version) (mappings : List EmulationMapping)
    (components result : Dict Component) : Prop where
  unmoved : ∀ name, Unmoved requests mappings name → result.get? name = components.get? name
  moved : ∀ mapping ∈ mappings, requests.contains mapping.target = false →
    ∃ source, result.get? mapping.source = some source ∧
      result.get? mapping.target = (components.get? mapping.target).map (mapping.move source)

section Solutions

variable {requests : Dict Version} {mappings : List EmulationMapping}
  {components result other : Dict Component}

/-- The equations are the same in every order. -/
theorem Solves.perm {reordered : List EmulationMapping}
    (solves : Solves requests mappings components result) (same : mappings.Perm reordered) :
    Solves requests reordered components result where
  unmoved := fun name unmoved =>
    solves.unmoved name fun mapping inside => unmoved mapping (same.mem_iff.1 inside)
  moved := fun mapping inside => solves.moved mapping (same.mem_iff.2 inside)

theorem solves_applyMappings
    (apart : ∀ mapping ∈ mappings, mapping.source ≠ mapping.target)
    (single : mappings.Pairwise fun earlier later => earlier.target ≠ later.target)
    (ordered : AnchorsFirst requests mappings)
    (done : applyMappings requests mappings components = (.ok (), result)) :
    Solves requests mappings components result where
  unmoved := fun _ unmoved => applyMappings_unmoved unmoved done
  moved := by
    intro mapping inside free
    obtain ⟨before, after, rfl⟩ := List.append_of_mem inside
    obtain ⟨_, source, _, _, target, kept⟩ := applyMappings_turn single free done
    exact ⟨source, kept (apart mapping inside) ordered.unmoved, target⟩

/-- What agrees at all components that no mapping moves agrees everywhere. -/
theorem agree_of_anchorsFirst (ordered : AnchorsFirst requests mappings)
    (apart : ∀ mapping ∈ mappings, mapping.source ≠ mapping.target)
    (unmoved : ∀ name, Unmoved requests mappings name → result.get? name = other.get? name)
    (passes : ∀ mapping ∈ mappings, requests.contains mapping.target = false →
      result.get? mapping.source = other.get? mapping.source →
      result.get? mapping.target = other.get? mapping.target) : result = other := by
  induction mappings with
  | nil => exact Dict.eq_of_get? fun name => unmoved name nofun
  | cons mapping rest inductionHypothesis =>
      obtain ⟨sourceKept, orderedBehind⟩ := anchorsFirst_cons.1 ordered
      have here := List.mem_cons_self (a := mapping) (l := rest)
      refine inductionHypothesis orderedBehind
        (fun later inside => apart later (List.mem_cons_of_mem _ inside)) ?_
        (fun later inside => passes later (List.mem_cons_of_mem _ inside))
      -- The first mapping joins the settled components, so the others need agreement at its target.
      intro name kept
      by_cases moved : requests.contains mapping.target = false ∧ mapping.target = name
      · obtain ⟨free, rfl⟩ := moved
        refine passes mapping here free (unmoved mapping.source ?_)
        exact List.forall_mem_cons.2 ⟨fun _ => Ne.symm (apart mapping here), sourceKept⟩
      · refine unmoved name (List.forall_mem_cons.2 ⟨fun free same => ?_, kept⟩)
        exact moved ⟨free, same⟩

/-- The equations have one solution. -/
theorem Solves.unique (ordered : AnchorsFirst requests mappings)
    (apart : ∀ mapping ∈ mappings, mapping.source ≠ mapping.target)
    (first : Solves requests mappings components result)
    (second : Solves requests mappings components other) : result = other := by
  refine agree_of_anchorsFirst ordered apart ?_ ?_
  · intro name unmoved
    rw [first.unmoved name unmoved, second.unmoved name unmoved]
  · intro mapping inside free same
    obtain ⟨source, found, target⟩ := first.moved mapping inside free
    obtain ⟨otherSource, otherFound, otherTarget⟩ := second.moved mapping inside free
    rw [found, otherFound] at same
    rw [target, otherTarget, Option.some.inj same]

end Solutions

/-- These are the components once the requests and then the mappings have taken effect. -/
def reached (registry : Registry) (mappings : List EmulationMapping) : Dict Component :=
  (applyMappings registry.emulationRequests mappings
    (registry.components.map registry.requested)).2

/-- The target emulates what the mapping makes of the source in the end. -/
def InStep (settled : Registry) (mapping : EmulationMapping) : Prop :=
  ∃ source target, settled.components.get? mapping.source = some source ∧
    settled.components.get? mapping.target = some target ∧
    ∀ version, mapping.mapping source.version.emulation = some version →
      target.version.emulation = version.majorMinor ∧
      target.gate.emulation = some version.majorMinor

section Outcome

variable {registry settled : Registry}

/-- A target follows its source as it is when the mapping's turn comes. -/
theorem WellWired.follows (wired : registry.WellWired) (notApplied : registry.applied = false)
    (done : registry.set = (.ok (), settled)) {mapping : EmulationMapping}
    {before after : List EmulationMapping}
    (placed : registry.mappings = before ++ mapping :: after)
    (free : registry.emulationRequests.contains mapping.target = false) :
    (∃ source target, (registry.reached before).get? mapping.source = some source ∧
      (registry.reached []).get? mapping.target = some target ∧
      settled.components.get? mapping.target = some (settleGate (mapping.move source target))) ∧
    (Unmoved registry.emulationRequests after mapping.source → settled.InStep mapping) := by
  obtain ⟨_, followed, mapped, rfl⟩ := (set_ok_iff notApplied).1 done
  have inside : mapping ∈ registry.mappings := by simp [placed]
  have single := wired.single
  rw [placed] at single mapped
  obtain ⟨middle, source, first, found, moved, kept⟩ := applyMappings_turn single free mapped
  obtain ⟨component, known⟩ := Dict.contains_eq_true_iff.1 (wired.target mapping inside)
  have wanted : (registry.reached []).get? mapping.target =
      some (registry.requested mapping.target component) := by
    rw [reached, applyMappings, Dict.get?_map, known, Option.map_some]
  have target : (followed.map fun _ component => settleGate component).get? mapping.target =
      some (settleGate
        (mapping.move source (registry.requested mapping.target component))) := by
    rw [Dict.get?_map, moved, Dict.get?_map, known, Option.map_some, Option.map_some,
      Option.map_some]
  constructor
  · exact ⟨source, _, by rw [reached, first, found], wanted, target⟩
  · intro unmoved
    refine ⟨settleGate source, _, ?_, target, ?_⟩
    · rw [Dict.get?_map, kept (wired.apart mapping inside) unmoved, Option.map_some]
    · intro version mappedVersion
      have seen : mapping.mapping source.version.emulation = some version := mappedVersion
      rw [EmulationMapping.move, seen]
      exact ⟨rfl, congrArg some version.majorMinor_majorMinor⟩

/-- The mappings find their sources. -/
theorem WellWired.exists_applyMappings (wired : registry.WellWired) :
    ∃ followed, applyMappings registry.emulationRequests registry.mappings
      (registry.components.map registry.requested) = (.ok (), followed) := by
  apply Registry.exists_applyMappings
  intro mapping inside
  rw [Dict.contains, Dict.get?_map, Option.isSome_map]
  exact wired.source mapping inside

/-- The target of the last mapping follows its source to the end. -/
theorem WellWired.exists_set_of_last (wired : registry.WellWired)
    (notApplied : registry.applied = false)
    (registered : ∀ name, registry.emulationRequests.contains name = true ∨
      registry.gateRequests.contains name = true → registry.isRegistered name = true)
    {mapping : EmulationMapping} {before : List EmulationMapping}
    (placed : registry.mappings = before ++ [mapping])
    (free : registry.emulationRequests.contains mapping.target = false) {target : Component}
    (targetKnown : registry.components.get? mapping.target = some target) :
    ∃ settled source, registry.set = (.ok (), settled) ∧
      (registry.reached before).get? mapping.source = some source ∧
      settled.components.get? mapping.source = some (settleGate source) ∧
      settled.components.get? mapping.target =
        some (settleGate (mapping.move source (registry.requested mapping.target target))) := by
  have apart := wired.apart mapping (by rw [placed]; exact List.mem_concat_self)
  have single := wired.single
  obtain ⟨followed, mapped⟩ := wired.exists_applyMappings
  have done := (set_ok_iff notApplied).2 ⟨registered, followed, mapped, rfl⟩
  rw [placed] at single mapped
  obtain ⟨middle, source, first, found, moved, kept⟩ := applyMappings_turn single free mapped
  rw [Dict.get?_map, targetKnown, Option.map_some, Option.map_some] at moved
  refine ⟨_, source, done, ?_, ?_, ?_⟩
  · rw [reached, first, found]
  · rw [Dict.get?_map, kept apart nofun, Option.map_some]
  · rw [Dict.get?_map, moved, Option.map_some]

/-- Where there is one mapping, its target follows its source as the requests have left it. -/
theorem WellWired.exists_set_of_single (wired : registry.WellWired)
    (notApplied : registry.applied = false)
    (registered : ∀ name, registry.emulationRequests.contains name = true ∨
      registry.gateRequests.contains name = true → registry.isRegistered name = true)
    {mapping : EmulationMapping} (alone : registry.mappings = [mapping])
    (free : registry.emulationRequests.contains mapping.target = false) {source target : Component}
    (sourceKnown : registry.components.get? mapping.source = some source)
    (targetKnown : registry.components.get? mapping.target = some target) :
    ∃ settled, registry.set = (.ok (), settled) ∧
      settled.components.get? mapping.source =
        some (settleGate (registry.requested mapping.source source)) ∧
      settled.components.get? mapping.target =
        some (settleGate (mapping.move (registry.requested mapping.source source)
          (registry.requested mapping.target target))) := by
  have placed : registry.mappings = [] ++ [mapping] := alone
  obtain ⟨settled, held, done, found, kept, moved⟩ :=
    wired.exists_set_of_last notApplied registered placed free targetKnown
  rw [reached, applyMappings, Dict.get?_map, sourceKnown, Option.map_some] at found
  cases found
  exact ⟨settled, done, kept, moved⟩

/-- The target of the last mapping follows its source without any request. -/
theorem WellWired.exists_set_of_unasked (wired : registry.WellWired)
    (notApplied : registry.applied = false) (noVersions : registry.emulationRequests = .empty)
    (noGates : registry.gateRequests = .empty) {mapping : EmulationMapping}
    {before : List EmulationMapping} (placed : registry.mappings = before ++ [mapping])
    {target : Component} (targetKnown : registry.components.get? mapping.target = some target) :
    ∃ settled source, registry.set = (.ok (), settled) ∧
      settled.components.get? mapping.source = some (settleGate source) ∧
      settled.components.get? mapping.target = some (settleGate (mapping.move source target)) := by
  have nothingAsked (name : String) (asked : registry.emulationRequests.contains name = true ∨
      registry.gateRequests.contains name = true) : registry.isRegistered name = true := by
    rw [noVersions, noGates] at asked
    rcases asked with version | gates
    · cases version
    · cases gates
  have free : registry.emulationRequests.contains mapping.target = false := by
    rw [noVersions]
    rfl
  have same : registry.requested mapping.target target = target := by
    rw [requested, noVersions, noGates]
    rfl
  obtain ⟨settled, source, done, _, kept, moved⟩ :=
    wired.exists_set_of_last notApplied nothingAsked placed free targetKnown
  rw [same] at moved
  exact ⟨settled, source, done, kept, moved⟩

/-- The order of the mappings does not decide whether settings take effect. -/
theorem WellWired.exists_set_withMappings (wired : registry.WellWired)
    (notApplied : registry.applied = false) (done : registry.set = (.ok (), settled))
    {order : List EmulationMapping} (same : order.Perm registry.mappings) :
    ∃ other, (registry.withMappings order).set = (.ok (), other) := by
  obtain ⟨registered, _⟩ := (set_ok_iff notApplied).1 done
  obtain ⟨followed, mapped⟩ := (wired.withMappings same).exists_applyMappings
  exact ⟨_, (@set_ok_iff (registry.withMappings order) _ notApplied).2
    ⟨registered, followed, mapped, rfl⟩⟩

/-- In every order that puts anchors first the same comes out. -/
theorem WellWired.components_withMappings (wired : registry.WellWired)
    (notApplied : registry.applied = false) (done : registry.set = (.ok (), settled))
    {order : List EmulationMapping} (same : order.Perm registry.mappings) {other : Registry}
    (otherDone : (registry.withMappings order).set = (.ok (), other))
    (ordered : AnchorsFirst registry.emulationRequests registry.mappings)
    (otherOrdered : AnchorsFirst registry.emulationRequests order) :
    other.components = settled.components := by
  obtain ⟨_, followed, mapped, rfl⟩ := (set_ok_iff notApplied).1 done
  obtain ⟨_, otherFollowed, otherMapped, rfl⟩ :=
    (@set_ok_iff (registry.withMappings order) _ notApplied).1 otherDone
  have otherWired := wired.withMappings same
  have first := solves_applyMappings wired.apart wired.single ordered mapped
  have second := solves_applyMappings otherWired.apart otherWired.single otherOrdered otherMapped
  obtain rfl := Solves.unique ordered wired.apart first (second.perm same)
  rfl

end Outcome

/-- A target is in step unless a later mapping moves its source. -/
theorem mappings_in_step {declarations : List Declaration} {settled : Registry}
    (done : (declared declarations).set = (.ok (), settled)) :
    (∀ before mapping after, (declared declarations).mappings = before ++ mapping :: after →
      (declared declarations).emulationRequests.contains mapping.target = false →
      (∃ source target,
        ((declared declarations).reached before).get? mapping.source = some source ∧
        ((declared declarations).reached []).get? mapping.target = some target ∧
        settled.components.get? mapping.target = some (settleGate (mapping.move source target))) ∧
      (Unmoved (declared declarations).emulationRequests after mapping.source →
        settled.InStep mapping)) ∧
    (∀ order, order.Perm (declared declarations).mappings →
      ∃ reordered other, declared reordered = (declared declarations).withMappings order ∧
        (declared reordered).set = (.ok (), other) ∧
        (AnchorsFirst (declared declarations).emulationRequests (declared declarations).mappings →
          AnchorsFirst (declared declarations).emulationRequests order →
          other.components = settled.components)) ∧
    ∀ rank : String → Nat,
      (∀ mapping ∈ (declared declarations).mappings, rank mapping.source < rank mapping.target) →
      ∃ order, order.Perm (declared declarations).mappings ∧
        AnchorsFirst (declared declarations).emulationRequests order := by
  have wired := wellWired_declared declarations
  have notApplied := (reflects_declared declarations).notApplied
  refine ⟨?_, ?_, fun rank acyclic => exists_anchorsFirst rank acyclic⟩
  · intro before mapping after placed free
    exact wired.follows notApplied done placed free
  · intro order same
    obtain ⟨reordered, equal⟩ := exists_reordered same
    obtain ⟨other, otherDone⟩ := wired.exists_set_withMappings notApplied done same
    refine ⟨reordered, other, equal, by rw [equal, otherDone], ?_⟩
    exact wired.components_withMappings notApplied done same otherDone

section Chain

def tenth : Candidate where
  component := ⟨.new ⟨1, 10, 0⟩, .empty⟩
  version := .new _
  gate := .empty

def link (source target : String) : EmulationMapping :=
  ⟨source, target, dependentVersionMapping ⟨1, 10, 0⟩ ⟨1, 10, 0⟩⟩

/-- Three components are linked, and the first of them goes back by one minor version. -/
def chain (links : List EmulationMapping) : List Declaration :=
  [.register "a" tenth, .register "b" tenth, .register "c" tenth] ++
    links.map (fun mapping => .map mapping.source mapping.target mapping.mapping) ++
    [.requestEmulation "a" ⟨1, 9, 0⟩]

/-- The chain is in step exactly if its first link was added first. -/
theorem chain_in_step_unless_reversed :
    (∃ settled, (declared (chain [link "a" "b", link "b" "c"])).set = (.ok (), settled) ∧
      settled.InStep (link "a" "b") ∧ settled.InStep (link "b" "c")) ∧
    ∃ settled, (declared (chain [link "b" "c", link "a" "b"])).set = (.ok (), settled) ∧
      settled.InStep (link "a" "b") ∧ ¬ settled.InStep (link "b" "c") := by
  have forwards : (declared (chain [link "a" "b", link "b" "c"])).set =
      (.ok (), (declared (chain [link "a" "b", link "b" "c"])).set.2) := rfl
  have backwards : (declared (chain [link "b" "c", link "a" "b"])).set =
      (.ok (), (declared (chain [link "b" "c", link "a" "b"])).set.2) := rfl
  have sourceKept : Unmoved (declared (chain [link "a" "b", link "b" "c"])).emulationRequests
      [link "b" "c"] "a" := by
    intro mapping inside _
    rw [List.mem_singleton.1 inside]
    decide
  refine ⟨⟨_, forwards, ?_, ?_⟩, _, backwards, ?_, ?_⟩
  · exact ((mappings_in_step forwards).1 [] _ _ rfl rfl).2 sourceKept
  · exact ((mappings_in_step forwards).1 [_] _ [] rfl rfl).2 nofun
  · exact ((mappings_in_step backwards).1 [_] _ [] rfl rfl).2 nofun
  · rintro ⟨source, target, sourceFound, targetFound, follows⟩
    have second : source.version.emulation = ⟨1, 9, 0⟩ := by
      cases sourceFound
      rfl
    have third : target.version.emulation = ⟨1, 10, 0⟩ := by
      cases targetFound
      rfl
    have wanted := (follows ⟨1, 9, 0⟩ (by rw [second]; decide +kernel)).1
    rw [third] at wanted
    exact absurd wanted (by decide)

end Chain

end ResourceApi.Registry
