import ServiceDiscovery.Resolver
import ServiceDiscovery.Watcher.Timeline

/-!
A resolver's lifetime on the clock. Its loop gets to run only while time passes or while someone
waits for it, so a cancellation is seen at the next such occasion.
-/
namespace ServiceDiscovery

open Watcher

structure Lifetime where
  watcher : Watcher
  resolver : Option Resolver
  cancelled : Bool
  timeline : Timeline

inductive Lifetime.Step where
  | resolveNow
  | close
  | advance (millis : Nat)
  | drained (patience : Nat)
  | shutdown
  | drop

inductive Lifetime.Result where
  | none
  | drained (inTime : Bool)
  | ended (state : Except Failure WatchState)

namespace Lifetime

def start (watcher : Watcher) (answers : List Answer) (sink : List SinkEnd) :
    Lifetime × List Log.Event :=
  let (resolver, logs) := Resolver.start watcher.target
  (⟨watcher, some resolver, false, .start answers sink⟩, logs)

def onResolver (life : Lifetime) (change : Resolver → Resolver × List Log.Event) :
    Lifetime × List Log.Event :=
  match life.resolver with
  | none => (life, [])
  | some resolver =>
    let (next, logs) := change resolver
    ({ life with resolver := some next, cancelled := next.cancelled }, logs)

-- Lets the loop run for a time, after it has seen whether it is cancelled.
def work (life : Lifetime) (untilDrained : Bool) (millis : Nat) : Lifetime :=
  let limit := life.timeline.now + millis
  let seen := if life.cancelled then life.timeline.cancel life.watcher else life.timeline
  { life with timeline := seen.advance life.watcher untilDrained limit }

def step (life : Lifetime) : Step → Lifetime × Result × List Log.Event
  | .resolveNow =>
    let (next, logs) := life.onResolver Resolver.resolveNow
    (next, .none, logs)
  | .close =>
    let (next, logs) := life.onResolver Resolver.close
    (next, .none, logs)
  | .advance millis => (life.work false millis, .none, [])
  | .drained patience =>
    let next := if life.timeline.drained then life else life.work true patience
    ({ next with timeline := { next.timeline with drained := false } },
      .drained next.timeline.drained, [])
  | .shutdown =>
    match life.resolver with
    | none => (life, .none, [])
    | some _ =>
      let (closed, logs) := life.onResolver Resolver.close
      let ended := { closed with resolver := none, timeline := closed.timeline.cancel life.watcher }
      (ended, .ended (Resolver.finalState ended.timeline.run), logs)
  | .drop =>
    let (next, logs) := life.onResolver Resolver.close
    ({ next with resolver := none }, .none, logs)

end Lifetime

end ServiceDiscovery
