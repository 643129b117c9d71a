import ServiceDiscovery.Backoff
import ServiceDiscovery.Config
import ServiceDiscovery.Health
import ServiceDiscovery.Log
import ServiceDiscovery.Target

/-!
Watching a service: one query after another, each waiting on the watermark that the last answer
left, and after each answer a push of the whole address set. The loop is a machine that takes one
event at a time and says what it does next, so that whoever drives it decides on time.
-/
namespace ServiceDiscovery

structure Watcher where
  target : Target
  config : WatchConfig
  policy : RetryPolicy

structure WatchState where
  lastIndex : UInt64
  addresses : AddressSet
deriving DecidableEq

namespace WatchState

def initial : WatchState := ⟨0, .empty⟩

def accepts (config : WatchConfig) (entry : ServiceEntry) : Bool :=
  entry.healthy || (!config.passingOnly && entry.status == .warning)

def accepted (config : WatchConfig) (entries : List ServiceEntry) : AddressSet :=
  .ofList ((entries.filter (accepts config)).filterMap ServiceEntry.networkAddress?)

-- An answer replaces the addresses; the watermark only rises.
def apply (config : WatchConfig) (state : WatchState) (answer : HealthResponse) : WatchState :=
  ⟨if state.lastIndex ≤ answer.index then answer.index else state.lastIndex,
    accepted config answer.entries⟩

def applyLogs (service : String) (config : WatchConfig) (state : WatchState)
    (answer : HealthResponse) : List Log.Event :=
  let next := apply config state answer
  let service := ("service", Log.Value.text service)
  let index := ("index", Log.Value.count next.lastIndex.toNat)
  (if state.lastIndex ≤ answer.index then []
    else
      [⟨.warn, "Registry index went backwards, keeping watermark",
        [service, ("current", .count state.lastIndex.toNat),
          ("received", .count answer.index.toNat)]⟩]) ++
    if next.addresses = state.addresses then
      [⟨.debug, "Service addresses unchanged", [service, index]⟩]
    else
      [⟨.info, "🔄 Service addresses updated",
        [service, index, ("instances", .count next.addresses.size)]⟩]

end WatchState

namespace Watcher

def serviceField (watcher : Watcher) : String × Log.Value :=
  ("service", .text watcher.target.service)

def registryField (watcher : Watcher) : String × Log.Value :=
  ("registry", .text watcher.target.registryAddress)

def query (watcher : Watcher) (state : WatchState) : HealthQuery :=
  { service := watcher.target.service
    tag := if watcher.config.filterByServiceTag then some watcher.target.service else none
    passingOnly := watcher.config.passingOnly
    waitIndex := state.lastIndex }

def pushLogs (watcher : Watcher) : Except Failure Unit → List Log.Event
  | .ok () => []
  | .error f =>
    [⟨.warn, "⚠️ Failed to push address snapshot",
      [watcher.serviceField, ("error", .text f.message)]⟩]

structure Poll where
  state : WatchState
  pushed : Option AddressSet
  result : Option (Except Failure Unit)
  logs : List Log.Event

-- A poll whose query was answered, or never was, and whose push ended, or never did.
def poll (watcher : Watcher) (state : WatchState)
    (answer : Option (Except Failure HealthResponse)) (push : Option (Except Failure Unit)) :
    Poll :=
  match answer with
  | none => ⟨state, none, none, []⟩
  | some (.error f) => ⟨state, none, some (.error f), []⟩
  | some (.ok answer) =>
    let next := state.apply watcher.config answer
    let logs := state.applyLogs watcher.target.service watcher.config answer
    match push with
    | none => ⟨next, some next.addresses, none, logs⟩
    | some ended => ⟨next, some next.addresses, some (.ok ()), logs ++ watcher.pushLogs ended⟩

inductive Phase where
  | ready | querying | pushing | waiting | stopped | broken
deriving DecidableEq, Repr

structure Run where
  state : WatchState
  failures : Nat
  consulted : Nat
  phase : Phase
deriving DecidableEq

inductive Event where
  | started
  | answered (answer : Except Failure HealthResponse)
  | pushed (ended : Except Failure Unit)
  | woke
  | cancelled
  | broke

inductive Action where
  | query (q : HealthQuery)
  | push (snapshot : AddressSet)
  | wait (attempt : Nat) (delay : Duration)
  | log (event : Log.Event)

namespace Run

def initial : Run := ⟨.initial, 0, 0, .ready⟩

def maxFailures : Nat := 2 ^ 32 - 1

def startLog (watcher : Watcher) : Log.Event :=
  ⟨.info, "👀 Watching service", [watcher.serviceField, watcher.registryField]⟩

def stopLog (watcher : Watcher) (state : WatchState) : Log.Event :=
  ⟨.info, "🛑 Watcher stopped",
    [watcher.serviceField, ("index", .count state.lastIndex.toNat),
      ("instances", .count state.addresses.size)]⟩

def failureLog (watcher : Watcher) (f : Failure) (attempt : Nat) (delay : Duration) : Log.Event :=
  ⟨.warn, "⚠️ Failed to retrieve instances from registry, keeping last known addresses",
    [watcher.serviceField, watcher.registryField, ("error", .text f.message),
      ("attempt", .count attempt), ("delay_ms", .count (delay.millis % 2 ^ 64))]⟩

def ask (watcher : Watcher) (run : Run) : Run × List Action :=
  ({ run with phase := .querying }, [.query (watcher.query run.state)])

def stop (watcher : Watcher) (run : Run) : Run × List Action :=
  ({ run with phase := .stopped }, [.log (stopLog watcher run.state)])

-- What the loop does on an event: its next state, and its actions in order. An event for which it
-- does not wait changes nothing.
def step (watcher : Watcher) (run : Run) : Event → Run × List Action
  | .started =>
    if run.phase = .ready then
      let (next, actions) := run.ask watcher
      (next, .log (startLog watcher) :: actions)
    else (run, [])
  | .answered (.ok answer) =>
    if run.phase = .querying then
      let state := run.state.apply watcher.config answer
      ({ run with state, failures := 0, phase := .pushing },
        (run.state.applyLogs watcher.target.service watcher.config answer).map .log ++
          [.push state.addresses])
    else (run, [])
  | .answered (.error f) =>
    if run.phase = .querying then
      let failures := min (run.failures + 1) maxFailures
      let delay := watcher.policy run.consulted failures
      ({ run with failures, consulted := run.consulted + 1, phase := .waiting },
        [.log (failureLog watcher f failures delay), .wait failures delay])
    else (run, [])
  | .pushed ended =>
    if run.phase = .pushing then
      let (next, actions) := run.ask watcher
      (next, (watcher.pushLogs ended).map .log ++ actions)
    else (run, [])
  | .woke => if run.phase = .waiting then run.ask watcher else (run, [])
  | .cancelled =>
    match run.phase with
    | .ready =>
      let (next, actions) := run.stop watcher
      (next, .log (startLog watcher) :: actions)
    | .querying | .pushing | .waiting => run.stop watcher
    | .stopped | .broken => (run, [])
  -- The client or the policy breaks down over a query, or the sink over a push.
  | .broke =>
    if run.phase = .querying ∨ run.phase = .pushing then ({ run with phase := .broken }, [])
    else (run, [])

def steps (watcher : Watcher) (run : Run) : List Event → Run × List Action
  | [] => (run, [])
  | event :: rest =>
    let (next, actions) := run.step watcher event
    let (last, more) := next.steps watcher rest
    (last, actions ++ more)

end Run

end Watcher

end ServiceDiscovery
