import ServiceDiscovery.Proofs.Balance.Tracking
import ServiceDiscovery.Proofs.Watcher.Ledger

namespace ServiceDiscovery.Balance

open Watcher

-- The changes accepted before a push are its base; all that came later are its own.
structure Push where
  base : List Change
  snapshot : AddressSet
  ended : Option (Except Failure Unit)
deriving DecidableEq

-- The last push, and those before it, are records of what reached the sink and what came of it.
structure Line where
  run : Run
  history : List Event
  actions : List Action
  feed : Feed
  earlier : List Push
  push : Option Push

-- The world brings what the loop waits for, the loop is cancelled, the push under way goes on by
-- one change, or the consumer receives changes or goes away.
inductive Occurrence where
  | brought (event : Event)
  | cancelled
  | proceed
  | receive (n : Nat)
  | drop

namespace Line

def start (capacity : Nat) (timeout : Option Duration) : Line :=
  ⟨.initial, [], [], .create capacity timeout, [], none⟩

def pushes (line : Line) : List Push := line.earlier ++ line.push.toList

def perform (line : Line) : Action → Line
  | .push snapshot =>
    { line with
      feed := line.feed.step (.update snapshot)
      earlier := line.pushes
      push := some ⟨line.feed.accepted, snapshot, none⟩ }
  | _ => line

def take (watcher : Watcher) (line : Line) (event : Event) : Line :=
  let (run, actions) := line.run.step watcher event
  actions.foldl perform
    { line with run, history := line.history ++ [event], actions := line.actions ++ actions }

-- How a push ends is the sink's to say, so the world does not bring it. A cancelled loop drops the
-- push under way and with it the sink's lock.
def step (watcher : Watcher) (line : Line) : Occurrence → Line
  | .brought event =>
    if line.run.phase ∈ event.phases ∧ line.run.phase ≠ .pushing then line.take watcher event
    else line
  | .cancelled =>
    if line.run.phase = .stopped ∨ line.run.phase = .broken then line
    else { line.take watcher .cancelled with feed := line.feed.step .abandon }
  | .proceed =>
    match line.feed.proceed with
    | (feed, none) => { line with feed }
    | (feed, some result) =>
      take watcher
        { line with
          feed, push := line.push.map fun push => { push with ended := some result } }
        (.pushed result)
  | .receive n => { line with feed := line.feed.step (.receive n) }
  | .drop => { line with feed := line.feed.step .drop }

end Line

theorem foldl_perform_quiet (actions : List Action) (line : Line) (quiet : pushed actions = []) :
    actions.foldl Line.perform line = line := by
  induction actions generalizing line with
  | nil => rfl
  | cons action rest ih =>
      rw [pushed_cons, List.append_eq_nil_iff] at quiet
      cases action with
      | push snapshot => cases quiet.1
      | query _ | wait _ _ | log _ => exact ih line quiet.2

def response? (event : Event) : Option HealthResponse := event.outcome?.bind Except.toOption

theorem response?_eq_some (event : Event) (response : HealthResponse)
    (answer : response? event = some response) : event = .answered (.ok response) := by
  cases event with
  | answered outcome =>
      cases outcome with
      | ok same =>
          cases answer
          rfl
      | error failure => cases answer
  | started | pushed _ | woke | cancelled | broke => cases answer

theorem step_unanswered (watcher : Watcher) (run : Run) (event : Event)
    (unanswered : response? event = none) :
    (run.step watcher event).1.state = run.state ∧ pushed (run.step watcher event).2 = [] := by
  cases event with
  | answered outcome =>
      cases outcome with
      | ok response => cases unanswered
      | error failure =>
          simp only [Run.step]
          split <;> exact ⟨rfl, rfl⟩
  | pushed result =>
      simp only [Run.step]
      split
      · exact ⟨rfl, by simp [Run.ask, Action.push?]⟩
      · exact ⟨rfl, rfl⟩
  | cancelled =>
      simp only [Run.step]
      split <;> exact ⟨rfl, rfl⟩
  | started | woke | broke =>
      simp only [Run.step]
      split <;> exact ⟨rfl, rfl⟩

theorem step_waited (watcher : Watcher) (run : Run) (event : Event)
    (unanswered : response? event = none)
    (due : run.phase ∈ event.phases) (unpushing : run.phase ≠ .pushing) :
    (run.step watcher event).1.phase ≠ .pushing ∧ event.ended? = none := by
  cases event with
  | answered outcome =>
      cases outcome with
      | ok response => cases unanswered
      | error failure => exact ⟨by simp [Run.step, List.mem_singleton.mp due], rfl⟩
  | pushed _ => exact absurd (List.mem_singleton.mp due) unpushing
  | started | woke => exact ⟨by simp [Run.step, Run.ask, List.mem_singleton.mp due], rfl⟩
  | cancelled => cases due
  | broke => exact ⟨by simp [Run.step, phase_of_broke _ due], rfl⟩

theorem take_unanswered (watcher : Watcher) (line : Line) (event : Event)
    (unanswered : response? event = none) :
    line.take watcher event = { line with
      run := (line.run.step watcher event).1
      history := line.history ++ [event]
      actions := line.actions ++ (line.run.step watcher event).2 } :=
  foldl_perform_quiet _ _ (step_unanswered watcher line.run event unanswered).2

theorem take_answer (watcher : Watcher) (line : Line) (response : HealthResponse)
    (querying : line.run.phase = .querying) :
    line.take watcher (.answered (.ok response)) = { line with
      run := (line.run.step watcher (.answered (.ok response))).1
      history := line.history ++ [.answered (.ok response)]
      actions := line.actions ++ (line.run.step watcher (.answered (.ok response))).2
      feed := line.feed.step (.update (WatchState.accepted watcher.config response.entries))
      earlier := line.pushes
      push := some
        ⟨line.feed.accepted, WatchState.accepted watcher.config response.entries, none⟩ } := by
  simp only [Line.take, Run.step, if_pos querying, List.foldl_append, List.foldl_cons,
    List.foldl_nil]
  rw [foldl_perform_quiet _ _ (pushed_logs _)]
  rfl

theorem step_stops (watcher : Watcher) (run : Run) (unbroken : run.phase ≠ .broken) :
    (run.step watcher .cancelled).1 = { run with phase := .stopped } := by
  obtain ⟨state, failures, consulted, phase⟩ := run
  cases phase with
  | broken => exact absurd rfl unbroken
  | ready | querying | pushing | waiting | stopped => rfl

theorem step_ended (watcher : Watcher) (run : Run) (result : Except Failure Unit)
    (pushing : run.phase = .pushing) :
    (run.step watcher (.pushed result)).1 = { run with phase := .querying } ∧
    asked (run.step watcher (.pushed result)).2 = [watcher.query run.state] := by
  simp [Run.step, Run.ask, pushing, Action.query?]

theorem cancelled_line (watcher : Watcher) (line : Line) (unbroken : line.run.phase ≠ .broken) :
    (line.step watcher .cancelled).run = { line.run with phase := .stopped } ∧
    (line.step watcher .cancelled).push = line.push ∧
    (line.step watcher .cancelled).feed.accepted = line.feed.accepted := by
  by_cases stopped : line.run.phase = .stopped
  · rw [Line.step, if_pos (.inl stopped), ← stopped]
    exact ⟨rfl, rfl, rfl⟩
  · rw [Line.step, if_neg (not_or.mpr ⟨stopped, unbroken⟩),
      take_unanswered watcher line .cancelled rfl]
    exact ⟨step_stops watcher line.run unbroken, rfl, rfl⟩

def Line.ended (watcher : Watcher) (line : Line) (result : Except Failure Unit) : Line :=
  Line.take watcher
    { line with
      feed := { line.feed with pending := none }
      push := line.push.map fun push => { push with ended := some result } }
    (.pushed result)

theorem ended_eq (watcher : Watcher) (line : Line) (result : Except Failure Unit) :
    line.ended watcher result =
      { line with
        run := (line.run.step watcher (.pushed result)).1
        history := line.history ++ [.pushed result]
        actions := line.actions ++ (line.run.step watcher (.pushed result)).2
        feed := { line.feed with pending := none }
        push := line.push.map fun push => { push with ended := some result } } :=
  take_unanswered watcher _ (.pushed result) rfl

end ServiceDiscovery.Balance
