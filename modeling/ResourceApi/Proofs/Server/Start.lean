/-
This file follows a server that is started again and again. Its first start runs the hooks in order
up to the first that fails, and every later start succeeds without them, whatever the first one met.
-/

import ResourceApi.Server

namespace ResourceApi

variable {State : Type}

/-- These are the hooks that were called, with what each of them answered. -/
abbrev HookLog := List (String × Except BuildError Unit)

/-- Watched hooks work on a log besides the state that all hooks work on. -/
structure Watched (State : Type) where
  state : State
  log : HookLog

def Session.watched (session : Session State) (log : HookLog) : Session (Watched State) :=
  ⟨session.stop, session.state, log⟩

def Session.unwatched (session : Session (Watched State)) : Session State :=
  ⟨session.stop, session.state.state⟩

/-- The hook enters its name and its answer in the log. -/
def Hook.watched (hook : Hook State) : Hook (Watched State) where
  name := hook.name
  action session :=
    let (answer, reached) := hook.action session.unwatched
    (answer, reached.watched (session.state.log ++ [(hook.name, answer)]))

namespace HookLog

def successes (hooks : List (Hook State)) : HookLog :=
  hooks.map fun hook => (hook.name, .ok ())

/-- The hooks are called up to the first that fails. -/
def Records (hooks : List (Hook State)) (log : HookLog) : Except BuildError Unit → Prop
  | .ok _ => log = successes hooks
  | .error error => ∃ passed failing rest, hooks = passed ++ failing :: rest ∧
      log = successes passed ++ [(failing.name, .error error)]

theorem names_successes (hooks : List (Hook State)) :
    (successes hooks).map Prod.fst = hooks.map Hook.name := by
  simp [successes]

variable {hooks : List (Hook State)} {log : HookLog} {result : Except BuildError Unit}

theorem Records.behind {hook : Hook State} (records : Records hooks log result) :
    Records (hook :: hooks) ((hook.name, .ok ()) :: log) result := by
  cases result with
  | ok => exact congrArg (List.cons _) records
  | error error =>
      obtain ⟨passed, failing, rest, rfl, rfl⟩ := records
      exact ⟨hook :: passed, failing, rest, rfl, rfl⟩

/-- The hooks are called in the order in which they were added. -/
theorem Records.isPrefix (records : Records hooks log result) :
    log.map Prod.fst <+: hooks.map Hook.name := by
  cases result with
  | ok =>
      have names : log.map Prod.fst = hooks.map Hook.name :=
        (congrArg _ records).trans (names_successes hooks)
      exact names ▸ List.prefix_refl _
  | error error =>
      obtain ⟨passed, failing, rest, rfl, rfl⟩ := records
      exact ⟨rest.map Hook.name, by simp [names_successes]⟩

theorem Records.eq_successes_iff (records : Records hooks log result) :
    log = successes hooks ↔ result = .ok () := by
  cases result with
  | ok => exact ⟨fun _ => rfl, fun _ => records⟩
  | error error =>
      obtain ⟨passed, failing, rest, _, rfl⟩ := records
      constructor
      · intro same
        have failed : (failing.name, .error error) ∈ successes hooks := by
          rw [← same]
          simp
        simp [successes] at failed
      · intro succeeded
        cases succeeded

end HookLog

namespace Server

/-- Watched hooks answer as they did before, and leave the same behind. -/
theorem runHooks_watched (hooks : List (Hook State)) (session : Session State) (log : HookLog) :
    ∃ calls, HookLog.Records hooks calls (runHooks hooks session).1 ∧
      runHooks (hooks.map Hook.watched) (session.watched log) =
        ((runHooks hooks session).1, (runHooks hooks session).2.watched (log ++ calls)) := by
  -- What was logged before a hook is called stays in front, so any log may come in.
  induction hooks generalizing session log with
  | nil => exact ⟨[], rfl, by rw [List.append_nil]; rfl⟩
  | cons hook rest inductionHypothesis =>
      rw [List.map_cons, runHooks, runHooks]
      have called : hook.watched.action (session.watched log) =
          ((hook.action session).1,
            (hook.action session).2.watched (log ++ [(hook.name, (hook.action session).1)])) := rfl
      rw [called]
      cases acted : hook.action session with
      | mk answer reached =>
          cases answer with
          | error error => exact ⟨[(hook.name, .error error)], ⟨[], hook, rest, rfl, rfl⟩, rfl⟩
          | ok =>
              obtain ⟨calls, records, same⟩ :=
                inductionHypothesis reached (log ++ [(hook.name, .ok ())])
              refine ⟨(hook.name, .ok ()) :: calls, records.behind, ?_⟩
              rw [← List.append_cons] at same
              exact same

/-- What the start inside of a run returned. -/
def Outcome.start : Outcome → Except BuildError Unit
  | .failed error => .error error
  | .stopped => .ok ()
  | .running => .ok ()

/-- A server is started, and the caller may then wait for the stop signal. -/
structure StartCall (State : Type) where
  waits : Bool
  session : Session State

/-- What the start returned, and the log when the call was over. -/
structure StartAnswer where
  result : Except BuildError Unit
  log : HookLog

def enter (server : Server State) (waits : Bool) (session : Session State) :
    Except BuildError Unit × Server State × Session State :=
  if waits then
    let (outcome, server, session) := server.run session
    (outcome.start, server, session)
  else server.start session

/-- To wait for the stop signal changes nothing but the signal. -/
theorem enter_eq_start (server : Server State) (waits : Bool) (session : Session State) :
    ∃ stop, server.enter waits session =
      ((server.start session).1, (server.start session).2.1,
        { (server.start session).2.2 with stop }) := by
  cases waits with
  | false => exact ⟨(server.start session).2.2.stop, rfl⟩
  | true =>
      rw [enter, if_pos rfl, run]
      obtain ⟨result, started, reached⟩ := server.start session
      cases result with
      | error error => exact ⟨reached.stop, rfl⟩
      | ok =>
          dsimp only
          cases reached.stop.listen with
          | none => exact ⟨reached.stop, rfl⟩
          | some stop => exact ⟨stop, rfl⟩

/-- Only the log goes on from one call to the next. -/
def answers (server : Server (Watched State)) (log : HookLog) :
    List (StartCall State) → List StartAnswer
  | [] => []
  | call :: later =>
      let (result, server, session) := server.enter call.waits (call.session.watched log)
      ⟨result, session.state.log⟩ :: server.answers session.state.log later

variable {server : Server (Watched State)} {hooks : List (Hook State)}

theorem enter_started (started : server.started = true) (waits : Bool)
    (session : Session State) (log : HookLog) :
    ∃ stop, server.enter waits (session.watched log) =
      (.ok (), server, { session with stop }.watched log) := by
  obtain ⟨stop, entered⟩ := server.enter_eq_start waits (session.watched log)
  rw [start, if_pos started] at entered
  exact ⟨stop, entered⟩

theorem enter_first (unstarted : server.started = false)
    (watches : server.hooks = hooks.map Hook.watched) (waits : Bool)
    (session : Session State) (log : HookLog) :
    ∃ calls reached, HookLog.Records hooks calls (runHooks hooks session).1 ∧
      server.enter waits (session.watched log) =
        ((runHooks hooks session).1, { server with started := true },
          Session.watched reached (log ++ calls)) := by
  obtain ⟨stop, entered⟩ := server.enter_eq_start waits (session.watched log)
  obtain ⟨calls, records, same⟩ := runHooks_watched hooks session log
  rw [← watches] at same
  rw [start, if_neg (unstarted ▸ Bool.false_ne_true), same] at entered
  exact ⟨calls, { (runHooks hooks session).2 with stop }, records, entered⟩

/-- A server that was started runs no hook again. -/
theorem answers_started (started : server.started = true) (log : HookLog)
    (calls : List (StartCall State)) :
    server.answers log calls = calls.map fun _ => ⟨.ok (), log⟩ := by
  induction calls with
  | nil => rfl
  | cons call later inductionHypothesis =>
      obtain ⟨stop, entered⟩ := enter_started started call.waits call.session log
      rw [answers, entered]
      exact congrArg (List.cons _) inductionHypothesis

theorem answers_first (unstarted : server.started = false)
    (watches : server.hooks = hooks.map Hook.watched) (first : StartCall State)
    (later : List (StartCall State)) :
    ∃ log, HookLog.Records hooks log (runHooks hooks first.session).1 ∧
      server.answers [] (first :: later) =
        ⟨(runHooks hooks first.session).1, log⟩ :: later.map fun _ => ⟨.ok (), log⟩ := by
  obtain ⟨log, reached, records, entered⟩ := enter_first unstarted watches first.waits
    first.session []
  refine ⟨log, records, ?_⟩
  rw [answers, entered]
  exact congrArg (List.cons _) (answers_started rfl log later)

/-- Hooks run at most once, and after a failed first call every other succeeds. -/
theorem only_first_start_reports_hooks (unstarted : server.started = false)
    (watches : server.hooks = hooks.map Hook.watched) (first : StartCall State)
    (later : List (StartCall State)) :
    (∀ answer ∈ server.answers [] (first :: later),
      answer.log.map Prod.fst <+: server.hookNames ∧ (answer.log.map Prod.fst).Nodup ∧
      (answer.log = HookLog.successes hooks ↔ (runHooks hooks first.session).1 = .ok ())) ∧
    ∃ log, HookLog.Records hooks log (runHooks hooks first.session).1 ∧
      server.answers [] (first :: later) =
        ⟨(runHooks hooks first.session).1, log⟩ :: later.map fun _ => ⟨.ok (), log⟩ := by
  obtain ⟨log, records, answered⟩ := answers_first unstarted watches first later
  have names : server.hookNames = hooks.map Hook.name := by
    rw [hookNames, watches, List.map_map]
    rfl
  refine ⟨?_, log, records, answered⟩
  intro answer given
  have same : answer.log = log := by
    rw [answered, List.mem_cons, List.mem_map] at given
    rcases given with rfl | ⟨_, _, rfl⟩ <;> rfl
  have distinct : (hooks.map Hook.name).Nodup := names ▸ server.distinct
  rw [same, names]
  exact ⟨records.isPrefix, records.isPrefix.sublist.nodup distinct, records.eq_successes_iff⟩

section Sample

/-- The second of these hooks fails. -/
def brittleHooks : List (Hook Unit) :=
  [⟨"a", fun session => (.ok (), session)⟩,
    ⟨"b", fun session => (.error (.postStartHook "b" "down"), session)⟩,
    ⟨"c", fun session => (.ok (), session)⟩]

def brittleServer : Server (Watched Unit) :=
  { Server.new "s" (Config.complete { component := "foo" }) .empty with
    hooks := brittleHooks.map Hook.watched
    distinct := by decide }

def plainStart : StartCall Unit :=
  ⟨false, ⟨.clear, ()⟩⟩

theorem second_start_hides_failure :
    brittleServer.started = false ∧ brittleServer.hooks = brittleHooks.map Hook.watched ∧
      ∃ log, log ≠ HookLog.successes brittleHooks ∧
        brittleServer.answers [] [plainStart, plainStart] =
          [⟨.error (.postStartHook "b" "down"), log⟩, ⟨.ok (), log⟩] := by
  have unstarted : brittleServer.started = false := rfl
  have watches : brittleServer.hooks = brittleHooks.map Hook.watched := rfl
  obtain ⟨every, log, _, answered⟩ :=
    only_first_start_reports_hooks unstarted watches plainStart [plainStart]
  refine ⟨unstarted, watches, log, ?_, answered⟩
  intro complete
  have succeeded := (every ⟨.ok (), log⟩ (by simp [answered])).2.2.1 complete
  cases succeeded

end Sample

end Server

end ResourceApi
