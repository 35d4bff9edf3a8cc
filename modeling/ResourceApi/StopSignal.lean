/-
This file defines the signal that asks a server to stop. Once it is set, it stays set. What a caller
does at the signal is made of single steps, so it can be run alone or in turns with others.
-/

namespace ResourceApi

inductive StopSignal where
  | clear
  /-- Somebody at work elsewhere is going to set the signal. -/
  | announced
  | set
  deriving DecidableEq, Inhabited

namespace StopSignal

def isSet : StopSignal → Bool
  | .set => true
  | _ => false

/-- A signal is a flag and an event that registers listeners under tickets. -/
inductive Steps (Ticket : Type) where
  | done
  | loadFlag (next : Bool → Steps Ticket)
  | storeFlag (next : Steps Ticket)
  | register (next : Ticket → Steps Ticket)
  | notifyAll (next : Steps Ticket)
  | await (ticket : Ticket) (next : Steps Ticket)
  | leave (ticket : Ticket) (next : Steps Ticket)

namespace Steps

variable {Ticket : Type}

/-- The flag may have been set just before the listener was registered. -/
def recheck (ticket : Ticket) : Steps Ticket :=
  .loadFlag fun isSet => if isSet then .leave ticket .done else .await ticket .done

def listen : Steps Ticket :=
  .loadFlag fun isSet => if isSet then .done else .register recheck

/-- The flag is set before the listeners are woken. -/
def notify : Steps Ticket :=
  .storeFlag (.notifyAll .done)

/-- A caller that is alone waits for ever where nobody sets the signal. -/
def run : Steps Unit → StopSignal → Option StopSignal
  | .done, signal => some signal
  | .loadFlag next, signal => (next signal.isSet).run signal
  | .storeFlag next, _ => next.run .set
  | .register next, signal => (next ()).run signal
  | .notifyAll next, signal => next.run signal
  | .await _ _, .clear => none
  | .await _ next, _ => next.run .set
  | .leave _ next, signal => next.run signal

end Steps

def notify (signal : StopSignal) : StopSignal :=
  (Steps.notify.run signal).getD signal

def announce : StopSignal → StopSignal
  | .set => .set
  | _ => .announced

def listen (signal : StopSignal) : Option StopSignal :=
  Steps.listen.run signal

@[simp] theorem notify_eq (signal : StopSignal) : signal.notify = .set := rfl

@[simp] theorem listen_eq (signal : StopSignal) :
    signal.listen = if signal = .clear then none else some .set := by
  cases signal <;> rfl

end StopSignal

/-- What is shared while a server runs: the stop signal, and whatever else hooks work on. -/
structure Session (State : Type) where
  stop : StopSignal
  state : State

/-- An informer is started once the server is assembled, and is told of the stop signal. -/
abbrev Informer (State : Type) := Session State → Session State

end ResourceApi
