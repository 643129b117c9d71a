import ServiceDiscovery.Watcher.Timeline

namespace ServiceDiscovery.Watcher

structure PollStep where
  query : HealthQuery
  startedAt : Nat
  pushedAt : Nat
  poll : Poll
  endedAt : Nat
  sink : List SinkEnd

-- A poll from a moment on; one that never ends is given up when patience runs out.
def pollAt (watcher : Watcher) (patience now : Nat) (state : WatchState) (answer : Answer)
    (sink : List SinkEnd) : PollStep :=
  let query := watcher.query state
  match answer with
  | .never => ⟨query, now, now, watcher.poll state none none, now + patience, sink⟩
  | .breaks delay => ⟨query, now, now, watcher.poll state none none, now + delay, sink⟩
  | .after delay answer =>
    let answeredAt := now + delay
    match answer with
    | .error f =>
      ⟨query, now, answeredAt, watcher.poll state (some (.error f)) none, answeredAt, sink⟩
    | .ok answer =>
      let ended (push : Option (Except Failure Unit)) : Poll :=
        watcher.poll state (some (.ok answer)) push
      match sink with
      | [] => ⟨query, now, answeredAt, ended (some (.ok ())), answeredAt, []⟩
      | .after wait result :: sink =>
        ⟨query, now, answeredAt, ended (some result), answeredAt + wait, sink⟩
      | .never :: sink | .breaks :: sink =>
        ⟨query, now, answeredAt, ended none, now + patience, sink⟩

def pollsAt (watcher : Watcher) (patience : Nat) : (now : Nat) → WatchState → List Answer →
    List SinkEnd → List PollStep
  | _, _, [], _ => []
  | now, state, answer :: rest, sink =>
    let step := watcher.pollAt patience now state answer sink
    step :: pollsAt watcher patience step.endedAt step.poll.state rest step.sink

end ServiceDiscovery.Watcher
