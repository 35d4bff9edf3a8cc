/-
This file lets any number of requests to any stores take turns on one backend. An update that
succeeds replaces the very document that its own request has read, and no version of a document is
replaced twice.
-/

import ResourceApi.Catalog.Plain
import ResourceApi.Proofs.Backend.Ledger
import ResourceApi.Proofs.Store.Visit

namespace ResourceApi

structure Client : Type 1 where
  Spec : Type
  Status : Type
  store : Store Spec Status
  visit : Visit Spec Status

structure Process : Type 1 where
  client : Client
  /-- These calls are still to be made. -/
  rest : Request Unit

/-- An event is one call of one of the clients. -/
structure Event : Type 1 where
  number : Nat
  client : Client
  moment : Moment

structure Interleaving : Type 1 where
  backend : Backend := .empty
  processes : List Process := []
  events : List Event := []

/-- A client comes, or one of those that are there makes its next call. -/
inductive Turn : Type 1 where
  | arrive (client : Client)
  | proceed (number : Nat)

namespace Interleaving

def proceed (state : Interleaving) (number : Nat) : Interleaving :=
  match state.processes[number]? with
  | none => state
  | some ⟨_, .done _⟩ => state
  | some ⟨client, .call made next⟩ =>
      { backend := (state.backend.answer made).2
        processes := state.processes.set number ⟨client, next (state.backend.answer made).1⟩
        events := state.events ++ [⟨number, client, ⟨state.backend, made⟩⟩] }

def take (state : Interleaving) : Turn → Interleaving
  | .arrive client =>
      let process := ⟨client, client.store.request client.visit⟩
      { state with processes := state.processes ++ [process] }
  | .proceed number => state.proceed number

/-- All turns are taken in their order, on a backend that is empty at first. -/
def run (turns : List Turn) : Interleaving :=
  turns.foldl take {}

end Interleaving

/-- The event is an update of what the same client has read before. -/
def Event.Informed (event : Event) (earlier : List Event) (old : Json) : Prop :=
  ∃ strategy context object target stored version replacing before,
    event.client.visit = .update strategy context object ∧
    event.client.store.target context object = .ok target ∧
    ⟨event.number, event.client, ⟨before, .get (event.client.store.objectKey target)⟩⟩ ∈ earlier ∧
    before.items.get? (event.client.store.objectKey target) = some old ∧
    event.client.store.read old = .ok stored ∧
    event.client.store.replacement strategy context target stored = .ok (version, replacing) ∧
    (object.metadata.resourceVersion ≠ "" → object.metadata.resourceVersion = version) ∧
    event.moment.call = .update (event.client.store.objectKey target) (some version)
      (replacing.write event.client.store.kind)

/-- The event is an update of the key and the version that succeeds. -/
def Event.Replaces (event : Event) (key version : String) : Prop :=
  ∃ document stored, event.moment.call = .update key (some version) document ∧
    event.moment.stored? = some (key, stored)

namespace Interleaving

/-- How far the request of a process has come. -/
inductive Stage (events : List Event) (number : Nat) (process : Process) : Prop
  /-- No update is to come. -/
  | settled (nothing : process.rest.UpdatesNothing)
  | fresh (strategy : UpdateStrategy process.client.Spec process.client.Status)
      (context : Context) (object : Object process.client.Spec process.client.Status)
      (visit : process.client.visit = .update strategy context object)
      (rest : process.rest =
        (process.client.store.updateWith strategy context object).calls)
  /-- The document was read that is to be replaced. -/
  | read (strategy : UpdateStrategy process.client.Spec process.client.Status)
      (context : Context) (object target : Object process.client.Spec process.client.Status)
      (before : Backend) (old : Json)
      (visit : process.client.visit = .update strategy context object)
      (targeted : process.client.store.target context object = .ok target)
      (past : ⟨number, process.client,
        ⟨before, .get (process.client.store.objectKey target)⟩⟩ ∈ events)
      (found : before.items.get? (process.client.store.objectKey target) = some old)
      (rest : process.rest = (process.client.store.replace strategy context
        (process.client.store.objectKey target) target old).calls)

theorem Stage.later {events more : List Event} {number : Nat} {process : Process}
    (stage : Stage events number process) : Stage (events ++ more) number process := by
  cases stage with
  | settled nothing => exact .settled nothing
  | fresh strategy context object visit rest => exact .fresh strategy context object visit rest
  | read strategy context object target before old visit targeted past found rest =>
      exact .read strategy context object target before old visit targeted
        (List.mem_append_left _ past) found rest

/-- This holds at every point of a run. -/
structure Sound (state : Interleaving) : Prop where
  chain : Backend.Chain (state.events.map Event.moment) state.backend
  stage : ∀ {number : Nat} {process : Process}, state.processes[number]? = some process →
    Stage state.events number process
  informed : ∀ {place : Nat} {event : Event} {key : String} {expected : Option String}
    {document : Json}, state.events[place]? = some event →
    event.moment.call = .update key expected document →
    ∃ old, event.Informed (state.events.take place) old

theorem sound_start : Sound {} where
  chain := .start
  stage := by simp
  informed := by simp

section Steps

variable {events : List Event} {number : Nat} {client : Client} {made : Call}
  {next : Except BackendError made.Reply → Request Unit}

/-- The first call of an update looks for the document. -/
theorem Stage.step_of_fresh (backend : Backend)
    {strategy : UpdateStrategy client.Spec client.Status} {context : Context}
    {object : Object client.Spec client.Status}
    (visit : client.visit = .update strategy context object)
    (rest : Request.call made next = (client.store.updateWith strategy context object).calls) :
    Stage (events ++ [⟨number, client, ⟨backend, made⟩⟩]) number
        ⟨client, next (backend.answer made).1⟩ ∧
      ∀ key expected document, made ≠ .update key expected document := by
  unfold Store.updateWith at rest
  cases targeted : client.store.target context object with
  | error error =>
      rw [targeted] at rest
      cases rest
  | ok target =>
      rw [targeted] at rest
      cases rest
      refine ⟨?_, nofun⟩
      cases found : backend.items.get? (client.store.objectKey target) with
      | some old =>
          have reply : (backend.answer (.get (client.store.objectKey target))).1 = .ok old := by
            simp only [Backend.answer, Backend.get, found]
          rw [reply]
          exact .read strategy context object target backend old visit targeted
            (List.mem_append_right _ (List.mem_singleton.2 rfl)) found rfl
      | none =>
          have reply : (backend.answer (.get (client.store.objectKey target))).1 =
              .error (.notFound (client.store.objectKey target)) := by
            simp only [Backend.answer, Backend.get, found]
          rw [reply]
          refine .settled ?_
          show Request.UpdatesNothing (Request.calls (ite _ _ _))
          split
          · exact (Store.create_updatesNothing _ _).calls
          · exact trivial

/-- The second call of an update replaces what the first one has found. -/
theorem Stage.step_of_read (backend : Backend)
    {strategy : UpdateStrategy client.Spec client.Status} {context : Context}
    {object target : Object client.Spec client.Status} {before : Backend} {old : Json}
    (visit : client.visit = .update strategy context object)
    (targeted : client.store.target context object = .ok target)
    (past : ⟨number, client, ⟨before, .get (client.store.objectKey target)⟩⟩ ∈ events)
    (found : before.items.get? (client.store.objectKey target) = some old)
    (rest : Request.call made next = (client.store.replace strategy context
      (client.store.objectKey target) target old).calls) :
    Stage (events ++ [⟨number, client, ⟨backend, made⟩⟩]) number
        ⟨client, next (backend.answer made).1⟩ ∧
      Event.Informed ⟨number, client, ⟨backend, made⟩⟩ events old := by
  unfold Store.replace at rest
  cases readable : client.store.read old with
  | error error =>
      rw [readable] at rest
      cases rest
  | ok stored =>
      cases replaced : client.store.replacement strategy context target stored with
      | error error =>
          simp only [readable, replaced] at rest
          cases rest
      | ok pair =>
          obtain ⟨version, replacing⟩ := pair
          simp only [readable, replaced] at rest
          cases rest
          refine ⟨.settled trivial, strategy, context, object, target, stored, version, replacing,
            before, visit, targeted, past, found, readable, replaced, ?_, rfl⟩
          intro named
          obtain ⟨_, _, _, rfl⟩ := Store.target_eq_ok_iff.1 targeted
          obtain ⟨_, agrees⟩ :=
            Store.replacedVersion_eq_ok_iff.1 (Store.replacement_eq_ok_iff.1 replaced).1
          rcases agrees with ⟨same, _⟩ | ⟨unnamed, _⟩
          · exact same
          · exact absurd unnamed named

/-- Every call of a process is a step to another stage. -/
theorem Stage.step (backend : Backend) (stage : Stage events number ⟨client, .call made next⟩) :
    Stage (events ++ [⟨number, client, ⟨backend, made⟩⟩]) number
        ⟨client, next (backend.answer made).1⟩ ∧
      ∀ key expected document, made = .update key expected document →
        ∃ old, Event.Informed ⟨number, client, ⟨backend, made⟩⟩ events old := by
  cases stage with
  | settled nothing =>
      exact ⟨.settled (nothing.2 _), fun key expected document updates =>
        absurd updates (nothing.1 key expected document)⟩
  | fresh strategy context object visit rest =>
      obtain ⟨stage, noUpdate⟩ := Stage.step_of_fresh backend visit rest
      exact ⟨stage, fun key expected document updates =>
        absurd updates (noUpdate key expected document)⟩
  | read strategy context object target before old visit targeted past found rest =>
      obtain ⟨stage, informed⟩ := Stage.step_of_read backend visit targeted past found rest
      exact ⟨stage, fun _ _ _ _ => ⟨old, informed⟩⟩

end Steps

variable {state : Interleaving}

theorem Sound.arrive (sound : Sound state) (client : Client) :
    Sound (state.take (.arrive client)) where
  chain := sound.chain
  stage := by
    intro number process found
    rcases getElem?_concat_cases found with earlier | ⟨_, rfl⟩
    · exact sound.stage earlier
    · rcases Store.request_updatesNothing client.visit with
        nothing | ⟨strategy, context, object, visit⟩
      · exact .settled nothing
      · exact .fresh strategy context object visit (congrArg client.store.request visit)
  informed := sound.informed

/-- A call adds one event behind all others. -/
theorem Sound.proceed (sound : Sound state) (number : Nat) : Sound (state.proceed number) := by
  unfold Interleaving.proceed
  split
  · exact sound
  · exact sound
  next client made next found =>
    obtain ⟨stage, informed⟩ := (sound.stage found).step state.backend
    refine ⟨?_, ?_, ?_⟩
    · rw [List.map_append]
      exact sound.chain.step made
    · intro other process stands
      rw [List.getElem?_set] at stands
      split at stands
      next same =>
        split at stands
        · cases stands
          subst same
          exact stage
        · cases stands
      · exact (sound.stage stands).later
    · intro place event key expected document stands updates
      rcases getElem?_concat_cases stands with earlier | ⟨rfl, rfl⟩
      · have inside := (List.getElem?_eq_some_iff.1 earlier).1
        rw [List.take_append_of_le_length (Nat.le_of_lt inside)]
        exact sound.informed earlier updates
      · rw [List.take_left]
        exact informed key expected document updates

theorem Sound.take (sound : Sound state) (turn : Turn) : Sound (state.take turn) := by
  cases turn with
  | arrive client => exact sound.arrive client
  | proceed number => exact sound.proceed number

/-- So it holds after all turns. -/
theorem Sound.takeAll (sound : Sound state) (turns : List Turn) :
    Sound (turns.foldl Interleaving.take state) := by
  induction turns generalizing state with
  | nil => exact sound
  | cons turn turns inductionHypothesis => exact inductionHypothesis (sound.take turn)

theorem run_sound (turns : List Turn) : Sound (run turns) :=
  sound_start.takeAll turns

theorem moment_of_event {events : List Event} {place : Nat} {event : Event}
    (stands : events[place]? = some event) :
    (events.map Event.moment)[place]? = some event.moment := by
  rw [List.getElem?_map, stands]
  rfl

/-- What is held can be read as an object of its version only. -/
theorem Sound.version_eq_of_read (sound : Sound state) {place : Nat} {event : Event}
    (stands : state.events[place]? = some event) {key : String} {document : Json}
    (holds : event.moment.before.items.get? key = some document) {Spec Status : Type}
    {store : Store Spec Status} {object : Object Spec Status}
    (readable : store.read document = .ok object) :
    object.metadata.resourceVersion = Backend.documentVersion document := by
  have found := moment_of_event stands
  obtain ⟨page, stood, _⟩ := (sound.chain.take found).recorded.last holds
  have stamped := (sound.chain.take found).recorded.stamped stood
  rw [stamped.version_of_read (Store.read_eq_ok_iff.1 readable), stamped.documentVersion]

/-- What an update overwrites is what its client has read. -/
theorem Sound.overwrites (sound : Sound state) {place : Nat} {event : Event}
    {key : String} {expected : Option String} {document written : Json}
    (stands : state.events[place]? = some event)
    (updates : event.moment.call = .update key expected document)
    (stores : event.moment.stored? = some (key, written)) :
    ∃ old, event.moment.before.items.get? key = some old ∧
      event.Informed (state.events.take place) old := by
  obtain ⟨old, informed⟩ := sound.informed stands updates
  have whole := informed
  obtain ⟨strategy, context, object, target, stored, version, replacing, before, visit, targeted,
    past, found, readable, replaced, named, call⟩ := informed
  rw [updates] at call
  cases call
  obtain ⟨current, holds, carries⟩ := Moment.overwritten updates stores
  -- The event of the lookup stands at an earlier place.
  obtain ⟨earlier, inside, equal⟩ := List.mem_take_iff_getElem.1 past
  have lookup := List.getElem?_eq_some_iff.2 ⟨_, equal⟩
  have readVersion := sound.version_eq_of_read lookup found readable
  have replacedVersion :=
    (Store.replacedVersion_eq_ok_iff.1 (Store.replacement_eq_ok_iff.1 replaced).1).1
  have same : Backend.documentVersion current = Backend.documentVersion old := by
    rw [carries, replacedVersion, readVersion]
  obtain ⟨_, rfl⟩ := sound.chain.document_eq (moment_of_event stands)
    (moment_of_event lookup) holds found same
  exact ⟨current, holds, whole⟩

/-- After an update, the version that it has replaced is gone. -/
theorem Sound.not_replaced_again (sound : Sound state) {first second : Nat}
    {event other : Event} {key version : String}
    (firstStands : state.events[first]? = some event)
    (secondStands : state.events[second]? = some other)
    (firstReplaces : event.Replaces key version) (secondReplaces : other.Replaces key version) :
    ¬ first < second := by
  intro later
  obtain ⟨_, _, firstUpdates, firstStores⟩ := firstReplaces
  obtain ⟨_, _, secondUpdates, secondStores⟩ := secondReplaces
  obtain ⟨old, firstHolds, firstCarries⟩ := Moment.overwritten firstUpdates firstStores
  obtain ⟨current, secondHolds, secondCarries⟩ := Moment.overwritten secondUpdates secondStores
  have firstFound := moment_of_event firstStands
  have secondFound := moment_of_event secondStands
  exact sound.chain.version_ne_of_write firstFound secondFound later firstHolds firstStores
    secondHolds (secondCarries.trans firstCarries.symm)

/-- A successful update overwrites what it has read, and no version is overwritten twice. -/
theorem run_loses_no_update (turns : List Turn) :
    (∀ {place : Nat} {event : Event} {key : String} {expected : Option String}
      {document written : Json},
      (run turns).events[place]? = some event →
      event.moment.call = .update key expected document →
      event.moment.stored? = some (key, written) →
      ∃ old, event.moment.before.items.get? key = some old ∧
        event.Informed ((run turns).events.take place) old) ∧
    (∀ {first second : Nat} {event other : Event} {key version : String},
      (run turns).events[first]? = some event →
      (run turns).events[second]? = some other →
      event.Replaces key version → other.Replaces key version → first = second) := by
  have sound := run_sound turns
  refine ⟨sound.overwrites, ?_⟩
  intro first second event other key version firstStands secondStands firstReplaces secondReplaces
  have notLater :=
    sound.not_replaced_again firstStands secondStands firstReplaces secondReplaces
  have notEarlier :=
    sound.not_replaced_again secondStands firstStands secondReplaces firstReplaces
  omega

section Sample

def bars : Store Catalog.MessageSpec Catalog.NoStatus :=
  Store.ofKind Catalog.bar .none

def numberedBar (version : String) : Object Catalog.MessageSpec Catalog.NoStatus :=
  { Object.empty Catalog.bar with
    metadata := { name := "a", space := "b", resourceVersion := version } }

def barUpdate : Client :=
  ⟨_, _, bars, .update bars.strategy.update {} (numberedBar "1")⟩

/-- Two clients update the same version of one object. -/
def racingTurns : List Turn :=
  [.arrive ⟨_, _, bars, .create {} (numberedBar "")⟩, .arrive barUpdate, .arrive barUpdate,
    .proceed 0, .proceed 1, .proceed 2, .proceed 2, .proceed 1]

/-- The slower client fails. -/
theorem faster_update_is_the_only_one :
    ∃ event old, (run racingTurns).events[3]? = some event ∧
      event.Replaces "/registry/bars/b/a" "1" ∧
      event.moment.before.items.get? "/registry/bars/b/a" = some old ∧
      event.Informed ((run racingTurns).events.take 3) old ∧
      ∀ place other, (run racingTurns).events[place]? = some other →
        other.Replaces "/registry/bars/b/a" "1" → place = 3 := by
  obtain ⟨event, document, written, stands, updates, stores⟩ :
      ∃ event document written, (run racingTurns).events[3]? = some event ∧
        event.moment.call = .update "/registry/bars/b/a" (some "1") document ∧
        event.moment.stored? = some ("/registry/bars/b/a", written) :=
    ⟨_, _, _, rfl, rfl, rfl⟩
  have replaces : event.Replaces "/registry/bars/b/a" "1" := ⟨document, written, updates, stores⟩
  obtain ⟨informed, once⟩ := run_loses_no_update racingTurns
  obtain ⟨old, held, read⟩ := informed stands updates stores
  refine ⟨event, old, stands, replaces, held, read, ?_⟩
  intro place other found again
  exact once found stands again replaces

end Sample

end Interleaving

end ResourceApi
