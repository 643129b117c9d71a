import ServiceDiscovery.Resolver
import ServiceDiscovery.Sink.Balance

namespace ServiceDiscovery

inductive Outlet where
  | given
  | balancer (sink : Balance.Sink)

structure Loop where
  watcher : Watcher
  client : Consul.Client
  outlet : Outlet

-- What a launch finds around it: whether a runtime, why no HTTP client can be made, if none can,
-- and the draws by which delays are spread.
structure Surroundings where
  inRuntime : Bool
  httpFault : Option String
  draws : Nat → Nat

structure Launch (α : Type) where
  result : Except Failure α
  loops : List Loop
  logs : List Log.Event

namespace Launch

def of (result : Except Failure α) : Launch α := ⟨result, [], []⟩

-- What was started and logged stays so, even if what comes next fails.
def bind (first : Launch α) (next : α → Launch β) : Launch β :=
  match first.result with
  | .error f => ⟨.error f, first.loops, first.logs⟩
  | .ok a =>
    let second := next a
    ⟨second.result, first.loops ++ second.loops, first.logs ++ second.logs⟩

instance : Monad Launch where
  pure a := of (.ok a)
  bind := bind

def spawn (loop : Loop) : Launch Unit := ⟨.ok (), [loop], []⟩

def log (events : List Log.Event) : Launch Unit := ⟨.ok (), [], events⟩

def attempt (launch : Launch α) : Attempt α := ⟨launch.result, launch.logs⟩

end Launch

namespace ResolverBuilder

variable (builder : ResolverBuilder) (retry : Option RetryPolicy) (around : Surroundings)

def watcher (target : Target) : Watcher :=
  ⟨target, builder.watch,
    retry.getD (Backoff.spread builder.watch.backoffBase builder.watch.backoffMax around.draws)⟩

def connectedClient (target : Target) : Except Failure Consul.Client := do
  let client ← builder.client target
  match around.httpFault with
  | none => return client
  | some cause => .error (.ofCause .clientBuildFailed "Failed to build Consul HTTP client" cause)

def launchWithClient (outlet : Outlet) (target : Target) (client : Consul.Client) :
    Launch Resolver := do
  let (resolver, logs) ← Launch.of (start around.inRuntime target)
  Launch.spawn ⟨builder.watcher retry around target, client, outlet⟩
  Launch.log logs
  return resolver

def launch (outlet : Outlet) (raw : String) : Launch Resolver := do
  let target ← Launch.of (builder.parseTarget raw)
  let client ← Launch.of (builder.connectedClient around target)
  builder.launchWithClient retry around outlet target client

def balancerCapacity : Nat := 64

def checkRuntime : Except Failure Unit :=
  if around.inRuntime then .ok ()
  else
    .error ((Failure.internal
      "balanced channel must be created inside a Tokio runtime").withDetails noRuntime)

-- Takes a runtime from the outset, and makes no balancer for a target that cannot be read.
def launchBalanced (connectTimeout : Duration) (raw : String) : Launch Resolver := do
  Launch.of (checkRuntime around)
  let _ ← Launch.of (builder.parseTarget raw)
  builder.launch retry around
    (.balancer (Balance.Sink.create balancerCapacity (some connectTimeout))) raw

end ResolverBuilder

end ServiceDiscovery
