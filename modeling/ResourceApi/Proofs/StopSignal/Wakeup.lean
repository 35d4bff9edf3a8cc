/-
This file shows that nobody misses a stop. When a notifier is done, every listener that waits has been
marked. It rests on the order of the steps: listeners read the flag once more after they are registered,
and notifiers set the flag before they wake anybody.
-/

import ResourceApi.Proofs.StopSignal.Slots

namespace ResourceApi.StopSignal

variable {State Ticket : Type}

namespace Caller

/-- A caller can come as far as this. -/
inductive Stage : Caller Ticket → Prop
  | fresh : Stage ⟨.listener, .listen⟩
  | unset : Stage ⟨.listener, .register .recheck⟩
  | registered (ticket : Ticket) : Stage ⟨.listener, .recheck ticket⟩
  | waiting (ticket : Ticket) : Stage ⟨.listener, .await ticket .done⟩
  | leaving (ticket : Ticket) : Stage ⟨.listener, .leave ticket .done⟩
  | clear : Stage ⟨.notifier, .notify⟩
  | set : Stage ⟨.notifier, .notifyAll .done⟩
  | finished (role : Role) : Stage ⟨role, .done⟩

/-- This is all that one step of a caller can be. -/
inductive Moves (source : EventSource State Ticket) (shared : Shared State) :
    Caller Ticket → Steps Ticket → Shared State → Prop
  | sees (set : shared.flag = true) : Moves source shared ⟨.listener, .listen⟩ .done shared
  | misses (unset : shared.flag = false) :
      Moves source shared ⟨.listener, .listen⟩ (.register .recheck) shared
  | registers :
      Moves source shared ⟨.listener, .register .recheck⟩ (.recheck (source.listen shared.event).1)
        { shared with event := (source.listen shared.event).2 }
  | seesLate (ticket : Ticket) (set : shared.flag = true) :
      Moves source shared ⟨.listener, .recheck ticket⟩ (.leave ticket .done) shared
  | waits (ticket : Ticket) (unset : shared.flag = false) :
      Moves source shared ⟨.listener, .recheck ticket⟩ (.await ticket .done) shared
  | wakes (ticket : Ticket) (marked : source.isMarked shared.event ticket = true) :
      Moves source shared ⟨.listener, .await ticket .done⟩ .done
        { shared with event := source.wake shared.event ticket }
  | leaves (ticket : Ticket) :
      Moves source shared ⟨.listener, .leave ticket .done⟩ .done
        { shared with event := source.drop shared.event ticket }
  | sets :
      Moves source shared ⟨.notifier, .notify⟩ (.notifyAll .done) { shared with flag := true }
  | notifies :
      Moves source shared ⟨.notifier, .notifyAll .done⟩ .done
        { shared with event := source.notifyAll shared.event }

variable {source : EventSource State Ticket} {shared after : Shared State} {caller : Caller Ticket}
  {rest : Steps Ticket}

theorem Stage.moves (stage : caller.Stage)
    (step : caller.rest.next source shared = some (rest, after)) :
    Moves source shared caller rest after := by
  cases stage with
  | fresh =>
      cases step
      cases read : shared.flag with
      | true => exact .sees read
      | false => exact .misses read
  | unset =>
      cases step
      exact .registers
  | registered ticket =>
      cases step
      cases read : shared.flag with
      | true => exact .seesLate ticket read
      | false => exact .waits ticket read
  | waiting ticket =>
      rw [Steps.next] at step
      split at step
      next marked =>
        cases step
        exact .wakes ticket marked
      · cases step
  | leaving ticket =>
      cases step
      exact .leaves ticket
  | clear =>
      cases step
      exact .sets
  | set =>
      cases step
      exact .notifies
  | finished role => cases step

theorem Stage.within (stage : caller.Stage) {limit : Nat} (enough : 3 ≤ limit) :
    caller.rest.Within limit := by
  obtain ⟨more, rfl⟩ := Nat.exists_eq_add_of_le' enough
  cases stage with
  | unset => exact fun _ => trivial
  | _ => trivial

namespace Moves

variable (moves : Moves source shared caller rest after)

include moves

theorem stage : Stage { caller with rest } := by
  cases moves with
  | sees => exact .finished _
  | misses => exact .unset
  | registers => exact .registered _
  | seesLate ticket => exact .leaving ticket
  | waits ticket => exact .waiting ticket
  | wakes => exact .finished _
  | leaves => exact .finished _
  | sets => exact .set
  | notifies => exact .finished _

/-- A step does no harm to the tickets of other callers. -/
theorem keeps (lawful : source.Lawful) {ticket : Ticket} (other : caller.rest.ticket? ≠ some ticket) :
    source.Keeps shared.event after.event ticket := by
  cases moves with
  | registers => exact lawful.listen_keeps shared.event ticket
  | wakes held =>
      exact lawful.wake_keeps shared.event held ticket fun same => other (congrArg some same.symm)
  | leaves held =>
      exact lawful.drop_keeps shared.event held ticket fun same => other (congrArg some same.symm)
  | notifies => exact lawful.notifyAll_keeps shared.event ticket
  | _ => exact .refl source shared.event ticket

/-- After a step a caller has the ticket that it had before, or a new one. -/
theorem ticket (lawful : source.Lawful) {ticket : Ticket} (held : rest.ticket? = some ticket) :
    (caller.rest.ticket? = some ticket ∧ after.event = shared.event) ∨
    (source.isRegistered shared.event ticket = false ∧
      source.isRegistered after.event ticket = true) := by
  cases moves with
  | registers =>
      cases held
      exact Or.inr ⟨lawful.fresh shared.event, lawful.registers shared.event⟩
  | seesLate => exact Or.inl ⟨held, rfl⟩
  | waits => exact Or.inl ⟨held, rfl⟩
  | _ => cases held

/-- A notifier that has begun has set the flag. -/
theorem announces (notifier : caller.role = .notifier)
    (before : caller.rest = .notify ∨ shared.flag = true) : after.flag = true := by
  cases moves with
  | sets => rfl
  | notifies => exact before.resolve_left nofun
  | _ => cases notifier

theorem notified (notifier : caller.role = .notifier) (ended : rest = .done) :
    after.event = source.notifyAll shared.event := by
  cases moves with
  | sets => cases ended
  | notifies => rfl
  | _ => cases notifier

/-- Who begins to wait has just read that the flag is not set. -/
theorem unset_of_await {ticket : Ticket} {later : Steps Ticket} (waiting : rest = .await ticket later) :
    shared.flag = false := by
  cases moves with
  | waits _ unset => exact unset
  | _ => cases waiting

end Moves

end Caller

namespace Meeting

/-- This holds at every point of a run. -/
structure Sound (source : EventSource State Ticket) (meeting : Meeting State Ticket) : Prop where
  stage : ∀ {number : Nat} {caller : Caller Ticket}, meeting.callers[number]? = some caller →
    caller.Stage
  registered : ∀ {number : Nat} {caller : Caller Ticket} {ticket : Ticket},
    meeting.callers[number]? = some caller → caller.rest.ticket? = some ticket →
    source.isRegistered meeting.shared.event ticket = true
  apart : ∀ {first second : Nat} {caller other : Caller Ticket} {ticket : Ticket},
    meeting.callers[first]? = some caller → meeting.callers[second]? = some other →
    caller.rest.ticket? = some ticket → other.rest.ticket? = some ticket → first = second
  announced : ∀ {number : Nat} {caller : Caller Ticket}, meeting.callers[number]? = some caller →
    caller.role = .notifier → caller.rest = .notify ∨ meeting.shared.flag = true
  woken : ∀ {notifier listener : Nat} {caller : Caller Ticket} {ticket : Ticket}
    {rest : Steps Ticket}, meeting.callers[notifier]? = some ⟨.notifier, .done⟩ →
    meeting.callers[listener]? = some caller → caller.rest = .await ticket rest →
    source.isMarked meeting.shared.event ticket = true

theorem sound_start (source : EventSource State Ticket) (roles : List Role) :
    Sound source (start source roles) := by
  have begins {number : Nat} {caller : Caller Ticket}
      (found : (start source roles).callers[number]? = some caller) :
      ∃ role : Role, caller = ⟨role, role.steps⟩ := by
    rw [start, List.getElem?_map, Option.map_eq_some_iff] at found
    obtain ⟨role, _, same⟩ := found
    exact ⟨role, same.symm⟩
  have ticketless {number : Nat} {caller : Caller Ticket}
      (found : (start source roles).callers[number]? = some caller) :
      caller.rest.ticket? = none := by
    obtain ⟨role, rfl⟩ := begins found
    cases role <;> rfl
  refine ⟨?_, ?_, ?_, ?_, ?_⟩
  · intro number caller found
    obtain ⟨role, rfl⟩ := begins found
    cases role with
    | listener => exact .fresh
    | notifier => exact .clear
  · intro number caller ticket found held
    rw [ticketless found] at held
    cases held
  · intro first second caller other ticket found _ held
    rw [ticketless found] at held
    cases held
  · intro number caller found notifier
    obtain ⟨role, rfl⟩ := begins found
    cases role with
    | listener => cases notifier
    | notifier => exact Or.inl rfl
  · intro notifier listener caller ticket rest ended
    obtain ⟨role, same⟩ := begins ended
    cases role <;> cases same

section Step

variable {source : EventSource State Ticket} {meeting : Meeting State Ticket} {number : Nat}
  {caller : Caller Ticket} {rest : Steps Ticket} {after : Shared State}

theorem getElem?_set_cases {Element : Type} {list : List Element} {place other : Nat}
    {element found : Element} (stands : (list.set place element)[other]? = some found) :
    (other = place ∧ found = element) ∨ (other ≠ place ∧ list[other]? = some found) := by
  rw [List.getElem?_set] at stands
  split at stands
  next same =>
    split at stands
    · exact Or.inl ⟨same.symm, (Option.some.inj stands).symm⟩
    · cases stands
  next different => exact Or.inr ⟨Ne.symm different, stands⟩

/-- What one caller does, the tickets of the others survive. -/
theorem Sound.keeps (sound : Sound source meeting) (lawful : source.Lawful)
    (found : meeting.callers[number]? = some caller)
    (moves : caller.Moves source meeting.shared rest after) {place : Nat} {other : Caller Ticket}
    {ticket : Ticket} (elsewhere : place ≠ number)
    (stands : meeting.callers[place]? = some other) (held : other.rest.ticket? = some ticket) :
    source.Keeps meeting.shared.event after.event ticket :=
  moves.keeps lawful fun same => elsewhere (sound.apart stands found held same)

theorem Sound.registered_step (sound : Sound source meeting) (lawful : source.Lawful)
    (found : meeting.callers[number]? = some caller)
    (moves : caller.Moves source meeting.shared rest after) {place : Nat} {other : Caller Ticket}
    {ticket : Ticket}
    (stands : (meeting.callers.set number { caller with rest })[place]? = some other)
    (held : other.rest.ticket? = some ticket) :
    source.isRegistered after.event ticket = true := by
  rcases getElem?_set_cases stands with ⟨rfl, rfl⟩ | ⟨elsewhere, stood⟩
  · rcases moves.ticket lawful held with ⟨before, same⟩ | ⟨_, new⟩
    · rw [same]
      exact sound.registered found before
    · exact new
  · exact (sound.keeps lawful found moves elsewhere stood held).registered
      (sound.registered stood held)

/-- The caller whose turn it was has no ticket of another caller. -/
theorem Sound.apart_step (sound : Sound source meeting) (lawful : source.Lawful)
    (found : meeting.callers[number]? = some caller)
    (moves : caller.Moves source meeting.shared rest after) {place : Nat} {other : Caller Ticket}
    {ticket : Ticket} (stands : meeting.callers[place]? = some other)
    (held : other.rest.ticket? = some ticket) (moved : rest.ticket? = some ticket) :
    place = number := by
  rcases moves.ticket lawful moved with ⟨before, _⟩ | ⟨unused, _⟩
  · exact sound.apart stands found held before
  · rw [sound.registered stands held] at unused
    cases unused

theorem Sound.set_of_done (sound : Sound source meeting) {notifier : Nat}
    (ended : meeting.callers[notifier]? = some ⟨.notifier, .done⟩) : meeting.shared.flag = true :=
  (sound.announced ended rfl).resolve_left nofun

theorem Sound.woken_step (sound : Sound source meeting) (lawful : source.Lawful)
    (found : meeting.callers[number]? = some caller)
    (moves : caller.Moves source meeting.shared rest after) {notifier listener : Nat}
    {other : Caller Ticket} {ticket : Ticket} {later : Steps Ticket}
    (ended : (meeting.callers.set number { caller with rest })[notifier]? = some ⟨.notifier, .done⟩)
    (stands : (meeting.callers.set number { caller with rest })[listener]? = some other)
    (waiting : other.rest = .await ticket later) :
    source.isMarked after.event ticket = true := by
  have held : other.rest.ticket? = some ticket := by
    rw [waiting]
    rfl
  rcases getElem?_set_cases ended with ⟨rfl, isCaller⟩ | ⟨_, hadEnded⟩
  · -- The notifier has just finished, and all listeners are still registered.
    obtain ⟨role, done⟩ := Caller.mk.inj isCaller.symm
    rcases getElem?_set_cases stands with ⟨rfl, rfl⟩ | ⟨_, stood⟩
    · cases done.symm.trans waiting
    · rw [moves.notified role done]
      exact lawful.marks _ _ (sound.registered stood held)
  · rcases getElem?_set_cases stands with ⟨rfl, rfl⟩ | ⟨elsewhere, stood⟩
    · -- The listener has just begun to wait, so the flag was not set when it looked.
      have unset := moves.unset_of_await waiting
      rw [sound.set_of_done hadEnded] at unset
      cases unset
    · exact (sound.keeps lawful found moves elsewhere stood held).marked
        (sound.woken hadEnded stood waiting)

/-- A turn of any caller keeps all of this. -/
theorem Sound.proceed (sound : Sound source meeting) (lawful : source.Lawful) (number : Nat) :
    Sound source (meeting.proceed source number) := by
  rcases proceed_cases source meeting number with
    same | ⟨caller, rest, after, found, step, moved⟩
  · rw [same]
    exact sound
  · rw [moved]
    have moves := (sound.stage found).moves step
    refine ⟨?_, sound.registered_step lawful found moves, ?_, ?_,
      sound.woken_step lawful found moves⟩
    · intro place other stands
      rcases getElem?_set_cases stands with ⟨_, rfl⟩ | ⟨_, stood⟩
      · exact moves.stage
      · exact sound.stage stood
    · intro first second one other ticket firstStands secondStands firstHeld secondHeld
      rcases getElem?_set_cases firstStands with ⟨rfl, rfl⟩ | ⟨_, firstStood⟩
      · rcases getElem?_set_cases secondStands with ⟨rfl, _⟩ | ⟨_, secondStood⟩
        · rfl
        · exact (sound.apart_step lawful found moves secondStood secondHeld firstHeld).symm
      · rcases getElem?_set_cases secondStands with ⟨rfl, rfl⟩ | ⟨_, secondStood⟩
        · exact sound.apart_step lawful found moves firstStood firstHeld secondHeld
        · exact sound.apart firstStood secondStood firstHeld secondHeld
    · intro place other stands notifier
      rcases getElem?_set_cases stands with ⟨rfl, rfl⟩ | ⟨_, stood⟩
      · exact Or.inr (moves.announces notifier (sound.announced found notifier))
      · exact (sound.announced stood notifier).imp_right (next_flag step)

end Step

section Run

variable {source : EventSource State Ticket} {meeting : Meeting State Ticket}

theorem Sound.proceedAll (sound : Sound source meeting) (lawful : source.Lawful)
    (turns : List Nat) : Sound source (turns.foldl (Meeting.proceed source) meeting) := by
  induction turns generalizing meeting with
  | nil => exact sound
  | cons turn turns inductionHypothesis => exact inductionHypothesis (sound.proceed lawful turn)

theorem run_sound (lawful : source.Lawful) (roles : List Role) (turns : List Nat) :
    Sound source (run source roles turns) :=
  (sound_start source roles).proceedAll lawful turns

/-- When a notifier is done, every other caller is done after its next steps. -/
theorem Sound.returns (sound : Sound source meeting) (lawful : source.Lawful) {notifier number : Nat}
    {caller : Caller Ticket} (ended : meeting.callers[notifier]? = some ⟨.notifier, .done⟩)
    (found : meeting.callers[number]? = some caller) {turns : List Nat}
    (near : caller.rest.Within (turns.count number)) :
    (turns.foldl (Meeting.proceed source) meeting).callers[number]? =
      some ⟨caller.role, .done⟩ := by
  induction turns generalizing meeting caller with
  | nil =>
      obtain ⟨role, rest⟩ := caller
      obtain rfl : rest = .done := Steps.eq_done_of_within_zero near
      exact found
  | cons turn turns inductionHypothesis =>
      have later := sound.proceed lawful turn
      have stillEnded : (meeting.proceed source turn).callers[notifier]? = some ⟨.notifier, .done⟩ :=
        callers_proceed_of_done ended
      by_cases same : turn = number
      · subst same
        by_cases finished : caller.rest = .done
        · obtain ⟨role, rest⟩ := caller
          obtain rfl := finished
          exact callers_of_done found (turn :: turns)
        · rw [List.count_cons_self] at near
          obtain ⟨rest, after, step, nearer⟩ := Steps.exists_next near finished
            (sound.set_of_done ended) fun ticket rest waiting => sound.woken ended found waiting
          have inside := (List.getElem?_eq_some_iff.1 found).1
          have moved : (meeting.proceed source turn).callers[turn]? = some { caller with rest } := by
            rw [proceed_of_next found step, List.getElem?_set_self inside]
          rw [List.foldl_cons, inductionHypothesis later stillEnded moved nearer]
      · rw [List.count_cons_of_ne same] at near
        exact inductionHypothesis later stillEnded ((callers_proceed_of_ne same).trans found) near

/-- Once a notifier is done, three turns of its own are enough for any caller. -/
theorem run_returns (lawful : source.Lawful) (roles : List Role) {turns later : List Nat}
    {notifier number : Nat} {caller : Caller Ticket}
    (ended : (run source roles turns).callers[notifier]? = some ⟨.notifier, .done⟩)
    (found : (run source roles turns).callers[number]? = some caller)
    (enough : 3 ≤ later.count number) :
    (run source roles (turns ++ later)).callers[number]? = some ⟨caller.role, .done⟩ := by
  have sound := run_sound lawful roles turns
  rw [run, List.foldl_append]
  exact sound.returns lawful ended found ((sound.stage found).within enough)

/-- Once a notifier is done, nobody waits unmarked, and later listeners do not wait. -/
theorem stop_never_missed (lawful : source.Lawful) (roles : List Role) (turns : List Nat) :
    (∀ (notifier listener : Nat) (caller : Caller Ticket) (ticket : Ticket) (rest : Steps Ticket),
      (run source roles turns).callers[notifier]? = some ⟨.notifier, .done⟩ →
      (run source roles turns).callers[listener]? = some caller → caller.rest = .await ticket rest →
      source.isMarked (run source roles turns).shared.event ticket = true) ∧
    (∀ (listener : Nat) (later : List Nat), (run source roles turns).shared.flag = true →
      (run source roles turns).callers[listener]? = some ⟨.listener, .listen⟩ →
      (run source roles (turns ++ later)).callers[listener]? =
        some ⟨.listener, if listener ∈ later then .done else .listen⟩) := by
  constructor
  · intro notifier listener caller ticket rest ended found waiting
    exact (run_sound lawful roles turns).woken ended found waiting
  · intro listener later set fresh
    rw [run, List.foldl_append]
    exact callers_of_set set fresh later

/-- The first listener waits and is marked, and the second one begins after the stop. -/
theorem stop_reaches_both_listeners :
    (run Slots.source [.listener, .notifier, .listener] [0, 0, 0, 1, 1]).callers =
      [⟨.listener, .await 0 .done⟩, ⟨.notifier, .done⟩, ⟨.listener, .listen⟩] ∧
    Slots.source.isMarked
      (run Slots.source [.listener, .notifier, .listener] [0, 0, 0, 1, 1]).shared.event 0 = true ∧
    (run Slots.source [.listener, .notifier, .listener]
      ([0, 0, 0, 1, 1] ++ [2, 0])).callers[2]? = some ⟨.listener, .done⟩ := by
  have missed := stop_never_missed Slots.source_lawful [.listener, .notifier, .listener]
    [0, 0, 0, 1, 1]
  exact ⟨rfl, missed.1 1 0 ⟨.listener, .await 0 .done⟩ 0 .done rfl rfl rfl, missed.2 2 [2, 0] rfl rfl⟩

end Run

end Meeting

end ResourceApi.StopSignal
