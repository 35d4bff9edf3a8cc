/-
This file lets any number of callers take turns at one stop signal. Some of them listen and some of
them notify, and every turn is one step of one caller. The event behind the signal can be any one that
treats its listeners as events do.
-/

import ResourceApi.StopSignal

namespace ResourceApi.StopSignal

/-- A listener with a ticket is woken when the ticket is marked. -/
structure EventSource (State Ticket : Type) where
  new : State
  listen : State → Ticket × State
  notifyAll : State → State
  wake : State → Ticket → State
  drop : State → Ticket → State
  isRegistered : State → Ticket → Bool
  isMarked : State → Ticket → Bool

variable {State Ticket : Type}

/-- The event loses neither the listener with this ticket nor its mark. -/
structure EventSource.Keeps (source : EventSource State Ticket) (before after : State)
    (ticket : Ticket) : Prop where
  registered : source.isRegistered before ticket = true → source.isRegistered after ticket = true
  marked : source.isMarked before ticket = true → source.isMarked after ticket = true

theorem EventSource.Keeps.refl (source : EventSource State Ticket) (event : State)
    (ticket : Ticket) : source.Keeps event event ticket :=
  ⟨id, id⟩

/-- A notification marks all listeners, and what is done for one keeps the others. -/
structure EventSource.Lawful (source : EventSource State Ticket) : Prop where
  fresh : ∀ event, source.isRegistered event (source.listen event).1 = false
  registers : ∀ event, source.isRegistered (source.listen event).2 (source.listen event).1 = true
  marks : ∀ event ticket, source.isRegistered event ticket = true →
    source.isMarked (source.notifyAll event) ticket = true
  listen_keeps : ∀ event ticket, source.Keeps event (source.listen event).2 ticket
  notifyAll_keeps : ∀ event ticket, source.Keeps event (source.notifyAll event) ticket
  wake_keeps : ∀ event ticket other, other ≠ ticket →
    source.Keeps event (source.wake event ticket) other
  drop_keeps : ∀ event ticket other, other ≠ ticket →
    source.Keeps event (source.drop event ticket) other

/-- This is what all callers share. -/
structure Shared (State : Type) where
  flag : Bool
  event : State

namespace Steps

/-- The first step is taken, unless there is none or the caller has to wait. -/
def next (source : EventSource State Ticket) :
    Steps Ticket → Shared State → Option (Steps Ticket × Shared State)
  | .done, _ => none
  | .loadFlag rest, shared => some (rest shared.flag, shared)
  | .storeFlag rest, shared => some (rest, { shared with flag := true })
  | .register rest, shared =>
      let (ticket, event) := source.listen shared.event
      some (rest ticket, { shared with event })
  | .notifyAll rest, shared => some (rest, { shared with event := source.notifyAll shared.event })
  | .await ticket rest, shared =>
      if source.isMarked shared.event ticket then
        some (rest, { shared with event := source.wake shared.event ticket })
      else none
  | .leave ticket rest, shared =>
      some (rest, { shared with event := source.drop shared.event ticket })

/-- This ticket was given to the caller and is still to be used. -/
def ticket? : Steps Ticket → Option Ticket
  | .await ticket _ | .leave ticket _ => some ticket
  | .loadFlag rest => (rest true).ticket?
  | _ => none

/-- No more than so many steps are left if the flag is set by now. -/
def Within : Steps Ticket → Nat → Prop
  | .done, _ => True
  | _, 0 => False
  | .loadFlag rest, limit + 1 => (rest true).Within limit
  | .register rest, limit + 1 => ∀ ticket, (rest ticket).Within limit
  | .storeFlag rest, limit + 1 | .notifyAll rest, limit + 1 | .await _ rest, limit + 1
  | .leave _ rest, limit + 1 => rest.Within limit

theorem eq_done_of_within_zero {rest : Steps Ticket} (near : rest.Within 0) : rest = .done := by
  cases rest with
  | done => rfl
  | _ => cases near

/-- A caller that need not wait comes closer to its end. -/
theorem exists_next {source : EventSource State Ticket} {rest : Steps Ticket} {limit : Nat}
    {shared : Shared State} (near : rest.Within (limit + 1)) (unfinished : rest ≠ .done)
    (set : shared.flag = true)
    (woken : ∀ ticket later, rest = .await ticket later →
      source.isMarked shared.event ticket = true) :
    ∃ later after, rest.next source shared = some (later, after) ∧ later.Within limit := by
  cases rest with
  | done => exact absurd rfl unfinished
  | loadFlag later => exact ⟨_, _, rfl, set ▸ near⟩
  | storeFlag later => exact ⟨_, _, rfl, near⟩
  | register later => exact ⟨_, _, rfl, near _⟩
  | notifyAll later => exact ⟨_, _, rfl, near⟩
  | await ticket later => exact ⟨_, _, if_pos (woken ticket later rfl), near⟩
  | leave ticket later => exact ⟨_, _, rfl, near⟩

end Steps

inductive Role where
  | listener
  | notifier

def Role.steps : Role → Steps Ticket
  | .listener => .listen
  | .notifier => .notify

structure Caller (Ticket : Type) where
  role : Role
  /-- These steps are still to be taken. -/
  rest : Steps Ticket

structure Meeting (State Ticket : Type) where
  shared : Shared State
  callers : List (Caller Ticket)

namespace Meeting

/-- It is the turn of one caller. -/
def proceed (source : EventSource State Ticket) (meeting : Meeting State Ticket) (number : Nat) :
    Meeting State Ticket :=
  match meeting.callers[number]? with
  | none => meeting
  | some caller =>
      match caller.rest.next source meeting.shared with
      | none => meeting
      | some (rest, shared) => ⟨shared, meeting.callers.set number { caller with rest }⟩

def start (source : EventSource State Ticket) (roles : List Role) : Meeting State Ticket where
  shared := ⟨false, source.new⟩
  callers := roles.map fun role => ⟨role, role.steps⟩

/-- The callers take their turns at a signal that is not set at first. -/
def run (source : EventSource State Ticket) (roles : List Role) (turns : List Nat) :
    Meeting State Ticket :=
  turns.foldl (proceed source) (start source roles)

section Turns

variable {source : EventSource State Ticket} {meeting : Meeting State Ticket} {number : Nat}
  {caller : Caller Ticket}

/-- A turn is one step of its caller, or it changes nothing. -/
theorem proceed_cases (source : EventSource State Ticket) (meeting : Meeting State Ticket)
    (number : Nat) :
    meeting.proceed source number = meeting ∨
    ∃ caller rest shared, meeting.callers[number]? = some caller ∧
      caller.rest.next source meeting.shared = some (rest, shared) ∧
      meeting.proceed source number =
        ⟨shared, meeting.callers.set number { caller with rest }⟩ := by
  unfold proceed
  split
  · exact Or.inl rfl
  next caller found =>
    split
    · exact Or.inl rfl
    next rest shared step => exact Or.inr ⟨caller, rest, shared, found, step, rfl⟩

theorem proceed_of_next {rest : Steps Ticket} {shared : Shared State}
    (found : meeting.callers[number]? = some caller)
    (step : caller.rest.next source meeting.shared = some (rest, shared)) :
    meeting.proceed source number =
      ⟨shared, meeting.callers.set number { caller with rest }⟩ := by
  rw [proceed, found]
  simp only [step]

/-- A turn leaves all other callers where they are. -/
theorem callers_proceed_of_ne {turn : Nat} (other : turn ≠ number) :
    (meeting.proceed source turn).callers[number]? = meeting.callers[number]? := by
  rcases proceed_cases source meeting turn with same | ⟨caller, rest, shared, _, _, moved⟩
  · rw [same]
  · rw [moved, List.getElem?_set_ne other]

theorem callers_proceed_of_done {role : Role} {turn : Nat}
    (ended : meeting.callers[number]? = some ⟨role, .done⟩) :
    (meeting.proceed source turn).callers[number]? = some ⟨role, .done⟩ := by
  by_cases same : turn = number
  · subst same
    rw [proceed, ended]
    exact ended
  · rw [callers_proceed_of_ne same, ended]

/-- Who is done stays done. -/
theorem callers_of_done {role : Role} (ended : meeting.callers[number]? = some ⟨role, .done⟩)
    (turns : List Nat) :
    (turns.foldl (proceed source) meeting).callers[number]? = some ⟨role, .done⟩ := by
  induction turns generalizing meeting with
  | nil => exact ended
  | cons turn turns inductionHypothesis => exact inductionHypothesis (callers_proceed_of_done ended)

theorem next_flag {rest later : Steps Ticket} {shared after : Shared State}
    (step : rest.next source shared = some (later, after)) (set : shared.flag = true) :
    after.flag = true := by
  cases rest with
  | done => cases step
  | await ticket rest =>
      rw [Steps.next] at step
      split at step
      · cases step
        exact set
      · cases step
  | storeFlag rest =>
      cases step
      rfl
  | _ =>
      cases step
      exact set

/-- Once the flag is set, it stays set. -/
theorem flag_proceed (set : meeting.shared.flag = true) (turn : Nat) :
    (meeting.proceed source turn).shared.flag = true := by
  rcases proceed_cases source meeting turn with same | ⟨caller, rest, shared, _, step, moved⟩
  · rw [same]
    exact set
  · rw [moved]
    exact next_flag step set

/-- A listener that begins when the flag is set is done after its first step. -/
theorem callers_of_set (set : meeting.shared.flag = true)
    (fresh : meeting.callers[number]? = some ⟨.listener, .listen⟩) (turns : List Nat) :
    (turns.foldl (proceed source) meeting).callers[number]? =
      some ⟨.listener, if number ∈ turns then .done else .listen⟩ := by
  induction turns generalizing meeting with
  | nil => simpa using fresh
  | cons turn turns inductionHypothesis =>
      by_cases same : turn = number
      · subst same
        have inside := (List.getElem?_eq_some_iff.1 fresh).1
        have step : Steps.listen.next source meeting.shared = some (.done, meeting.shared) := by
          rw [Steps.listen, Steps.next, set]
          rfl
        have moved := proceed_of_next fresh step
        have ended : (meeting.proceed source turn).callers[turn]? = some ⟨.listener, .done⟩ := by
          rw [moved, List.getElem?_set_self inside]
        rw [if_pos List.mem_cons_self]
        exact callers_of_done ended turns
      · have stays : (meeting.proceed source turn).callers[number]? = some ⟨.listener, .listen⟩ :=
          (callers_proceed_of_ne same).trans fresh
        rw [List.foldl_cons, inductionHypothesis (flag_proceed set turn) stays]
        simp [Ne.symm same]

end Turns

end Meeting

end ResourceApi.StopSignal
