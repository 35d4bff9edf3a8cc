/-
This file follows one store on a backend that it shares. Other stores have their objects elsewhere,
and all requests take turns with their calls. What stands below the root of the store stays orderly.
-/

import ResourceApi.Proofs.Store.Interleaving
import ResourceApi.Proofs.Store.Reachable
import ResourceApi.Proofs.Store.Separation

namespace ResourceApi

namespace Request

variable {Answer : Type} {holds : Backend → Prop} {root other : String}

/-- It is enough that a request keeps the part below its root. -/
theorem Keeps.within {request : Request Answer} (keeps : request.Keeps holds)
    (below : request.StaysBelow root) :
    request.Keeps fun backend => holds (backend.within root) := by
  induction request with
  | done answer => exact trivial
  | call made next inductionHypothesis =>
      intro backend start
      have step := keeps _ start
      rw [Backend.answer_within below.1] at step
      exact ⟨step.1, inductionHypothesis _ step.2 (below.2 _)⟩

/-- A request below one root keeps what is said of the documents below another one. -/
theorem StaysBelow.keeps_elsewhere {request : Request Answer} (below : request.StaysBelow root)
    (apart : Text.Apart root other)
    (ofItems : ∀ {first second : Backend}, first.items = second.items → holds first →
      holds second) :
    request.Keeps fun backend => holds (backend.within other) := by
  induction request with
  | done answer => exact trivial
  | call made next inductionHypothesis =>
      intro backend start
      have same := (Backend.answer_sameBelow below.1 apart backend).within_items
      exact ⟨ofItems same.symm start, inductionHypothesis _ (below.2 _)⟩

end Request

namespace Interleaving

variable {holds : Backend → Prop} {state : Interleaving}

/-- No call that is still to be made changes what holds of the backend. -/
structure Keeps (holds : Backend → Prop) (state : Interleaving) : Prop where
  backend : holds state.backend
  processes : ∀ process ∈ state.processes, process.rest.Keeps holds

theorem Keeps.take (keeps : state.Keeps holds) {turn : Turn}
    (comes : ∀ client, turn = .arrive client →
      (client.store.request client.visit).Keeps holds) : (state.take turn).Keeps holds := by
  cases turn with
  | arrive client =>
      refine ⟨keeps.backend, fun process inside => ?_⟩
      rcases List.mem_append.1 inside with earlier | new
      · exact keeps.processes process earlier
      · cases List.mem_singleton.1 new
        exact comes client rfl
  | proceed number =>
      show (state.proceed number).Keeps holds
      unfold proceed
      split
      · exact keeps
      · exact keeps
      next client made next found =>
        obtain ⟨after, rest⟩ :=
          keeps.processes _ (List.mem_of_getElem? found) state.backend keeps.backend
        refine ⟨after, fun process inside => ?_⟩
        rcases List.mem_or_eq_of_mem_set inside with other | rfl
        · exact keeps.processes process other
        · exact rest

theorem Keeps.takeAll (keeps : state.Keeps holds) {turns : List Turn}
    (clients : ∀ client, .arrive client ∈ turns →
      (client.store.request client.visit).Keeps holds) :
    (turns.foldl Interleaving.take state).Keeps holds := by
  induction turns generalizing state with
  | nil => exact keeps
  | cons turn turns inductionHypothesis =>
      refine inductionHypothesis (keeps.take ?_) ?_
      · rintro client rfl
        exact clients client List.mem_cons_self
      · exact fun client later => clients client (List.mem_cons_of_mem _ later)

/-- A process that gets all turns until it is done does what its request does alone. -/
theorem exists_finish {number : Nat} {client : Client} {rest : Request Unit}
    (stands : state.processes[number]? = some ⟨client, rest⟩) :
    ∃ count, ((List.replicate count (.proceed number)).foldl take state).backend =
      (rest.run state.backend).2 := by
  induction rest generalizing state with
  | done answer => exact ⟨0, rfl⟩
  | call made next inductionHypothesis =>
      obtain ⟨inside, _⟩ := List.getElem?_eq_some_iff.1 stands
      have moved : state.take (.proceed number) =
          { backend := (state.backend.answer made).2
            processes := state.processes.set number ⟨client, next (state.backend.answer made).1⟩
            events := state.events ++ [⟨number, client, ⟨state.backend, made⟩⟩] } := by
        simp only [take, proceed, stands]
      obtain ⟨count, done⟩ := @inductionHypothesis _ (state.take (.proceed number)) (by
        rw [moved]
        exact List.getElem?_set_self inside)
      refine ⟨count + 1, ?_⟩
      rw [List.replicate_succ, List.foldl_cons, done, moved]
      rfl

/-- A client that comes can take turns alone until it is done. -/
theorem exists_alone (state : Interleaving) (client : Client) :
    ∃ turns : List Turn, (∀ other, .arrive other ∈ turns → other = client) ∧
      (turns.foldl take state).backend =
        ((client.store.request client.visit).run state.backend).2 := by
  have stands : (state.take (.arrive client)).processes[state.processes.length]? =
      some ⟨client, client.store.request client.visit⟩ :=
    List.getElem?_concat_length
  obtain ⟨count, done⟩ := exists_finish stands
  refine ⟨.arrive client :: List.replicate count (.proceed state.processes.length), ?_, done⟩
  intro other comes
  rcases List.mem_cons.1 comes with new | proceeds
  · exact Turn.arrive.inj new
  · cases List.eq_of_mem_replicate proceeds

end Interleaving

namespace Store

variable {Spec Status : Type} {store : Store Spec Status} {backend : Backend} {key : String}
  {object : Object Spec Status}

theorem request_staysBelow (store : Store Spec Status) (visit : Visit Spec Status) :
    (store.request visit).StaysBelow store.keyRoot := by
  cases visit with
  | get context address => exact (get_staysBelow store context address).map _
  | list scope filter => exact (list_staysBelow store scope filter).map _
  | create context object => exact (create_staysBelow store context object).map _
  | update strategy context object =>
      exact (updateWith_staysBelow store strategy context object).map _
  | delete context address => exact (delete_staysBelow store context address).map _

/-- The revision does not matter. -/
theorem Orderly.of_items {first second : Backend} (same : first.items = second.items)
    (orderly : store.Orderly first) : store.Orderly second := by
  unfold Orderly
  rw [← same]
  exact orderly

/-- The client visits the store, or another one that has its objects elsewhere. -/
inductive SharesWith (store : Store Spec Status) : Client → Prop
  | own (visit : Visit Spec Status) (serves : store.Serves visit) :
      SharesWith store ⟨Spec, Status, store, visit⟩
  | other (client : Client) (apart : Text.Apart client.store.keyRoot store.keyRoot) :
      SharesWith store client

/-- The backend was empty at first, and then requests took turns on it. -/
def ReachableShared (store : Store Spec Status) (backend : Backend) : Prop :=
  ∃ turns, (∀ client, .arrive client ∈ turns → store.SharesWith client) ∧
    (Interleaving.run turns).backend = backend

theorem SharesWith.keeps {client : Client} (shares : store.SharesWith client)
    (keeps : store.strategy.KeepsAddress) :
    (client.store.request client.visit).Keeps fun backend =>
      store.Orderly (backend.within store.keyRoot) := by
  cases shares with
  | own visit serves => exact (request_keeps keeps serves).within (request_staysBelow store visit)
  | other client apart =>
      exact (request_staysBelow client.store client.visit).keeps_elsewhere apart Orderly.of_items

/-- So the part of the store is orderly at every moment. -/
theorem ReachableShared.orderly (reachable : store.ReachableShared backend)
    (keeps : store.strategy.KeepsAddress) : store.Orderly (backend.within store.keyRoot) := by
  obtain ⟨turns, clients, rfl⟩ := reachable
  have start : store.Orderly (Backend.empty.within store.keyRoot) := by
    intro key document found
    rw [Backend.within_get?] at found
    split at found
    · cases found
    · cases found
  have fresh :
      Interleaving.Keeps (fun backend => store.Orderly (backend.within store.keyRoot)) {} :=
    ⟨start, fun _ absent => absurd absent List.not_mem_nil⟩
  exact (fresh.takeAll fun client comes => (clients client comes).keeps keeps).backend

/-- This covers the backends that the requests of the store lead to one after the other. -/
theorem Reachable.shared (reachable : store.Reachable backend) :
    store.ReachableShared backend := by
  induction reachable with
  | empty => exact ⟨[], fun _ absent => absurd absent List.not_mem_nil, rfl⟩
  | visit visit serves reachable inductionHypothesis =>
      obtain ⟨turns, clients, rfl⟩ := inductionHypothesis
      obtain ⟨more, alone, done⟩ :=
        Interleaving.exists_alone (Interleaving.run turns) ⟨Spec, Status, store, visit⟩
      refine ⟨turns ++ more, ?_, ?_⟩
      · intro client comes
        rcases List.mem_append.1 comes with earlier | later
        · exact clients client earlier
        · rw [alone client later]
          exact .own visit serves
      · rw [Interleaving.run, List.foldl_append]
        exact done

end Store

end ResourceApi
