import ServiceDiscovery.Consul
import ServiceDiscovery.Resolver.Builder
import ServiceDiscovery.Watcher

namespace ServiceDiscovery

inductive ResolverState where
  | building | watching | closed
deriving DecidableEq, Repr

namespace ResolverState

def name : ResolverState → String
  | .building => "Building"
  | .watching => "Watching"
  | .closed => "Closed"

def stage : ResolverState → Nat
  | .building => 0
  | .watching => 1
  | .closed => 2

end ResolverState

structure Resolver where
  target : Target
  state : ResolverState
  cancelled : Bool
deriving DecidableEq

namespace Resolver

def building (target : Target) : Resolver := ⟨target, .building, false⟩

def serviceField (resolver : Resolver) : String × Log.Value :=
  ("service", .text resolver.target.service)

def start (target : Target) : Resolver × List Log.Event :=
  let resolver := { building target with state := .watching }
  (resolver,
    [⟨.info, "✅ Resolver started",
      [resolver.serviceField, ("registry", .text target.registryAddress)]⟩])

-- The loop drives itself, so a hint to resolve at once changes nothing.
def resolveNow (resolver : Resolver) : Resolver × List Log.Event :=
  (resolver,
    [⟨.debug, "resolve_now ignored, watch loop is self-driving", [resolver.serviceField]⟩])

def close (resolver : Resolver) : Resolver × List Log.Event :=
  if resolver.state = .closed then (resolver, [])
  else
    ({ resolver with state := .closed, cancelled := true },
      [⟨.info, "Resolver closed", [resolver.serviceField]⟩])

def loopFailed : String := "watch task failed"

def finalState (run : Watcher.Run) : Except Failure WatchState :=
  if run.phase = .broken then .error (.ofCause .internalError loopFailed "the loop broke down")
  else .ok run.state

end Resolver

structure Attempt (α : Type) where
  result : Except Failure α
  logs : List Log.Event

namespace ResolverBuilder

def noRuntime : String :=
  "there is no reactor running, must be called from the context of a Tokio 1.x runtime"

def client (builder : ResolverBuilder) (target : Target) : Except Failure Consul.Client :=
  Consul.Client.create target.registryAddress builder.options builder.watch.requestTimeout

def start (inRuntime : Bool) (target : Target) : Except Failure (Resolver × List Log.Event) :=
  if inRuntime then .ok (Resolver.start target)
  else
    .error ((Failure.internal "resolver must be built inside a Tokio runtime").withDetails
      noRuntime)

def attempt : Except Failure (Resolver × List Log.Event) → Attempt Resolver
  | .ok (resolver, logs) => ⟨.ok resolver, logs⟩
  | .error f => ⟨.error f, []⟩

def build (builder : ResolverBuilder) (inRuntime : Bool) (raw : String) : Attempt Resolver :=
  attempt do
    let target ← builder.parseTarget raw
    let _ ← builder.client target
    start inRuntime target

-- Like `build`, for a load balanced channel, which takes a runtime from the outset.
def connectBalanced (builder : ResolverBuilder) (inRuntime : Bool) (raw : String) :
    Attempt Resolver :=
  if inRuntime then
    match builder.parseTarget raw with
    | .error f => ⟨.error f, []⟩
    | .ok _ => builder.build inRuntime raw
  else
    ⟨.error ((Failure.internal
      "balanced channel must be created inside a Tokio runtime").withDetails noRuntime), []⟩

end ResolverBuilder

end ServiceDiscovery
