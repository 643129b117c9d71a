import ServiceDiscovery.Log
import ServiceDiscovery.Registration

namespace ServiceDiscovery.Registrar

inductive Operation where
  | register (kind : CheckKind) (descriptor : InstanceDescriptor)
  | deregister (id : String)

inductive Write where
  | register (registration : Registration)
  | deregister (id : String)
deriving DecidableEq

structure Outcome where
  write : Option Write
  result : Except Failure (Option Registration)
  logs : List Log.Event

def registeringLog (registry : String) (r : Registration) : Log.Event :=
  ⟨.info, "Registering service",
    [("service", .text r.name), ("instance_id", .text r.id), ("registry", .text registry),
      ("check", .text r.check.kind.label), ("interval", .text r.check.intervalText)]⟩

def registeredLog (r : Registration) : Except Failure Unit → Log.Event
  | .ok () => ⟨.info, "✅ Service registered", [("instance_id", .text r.id)]⟩
  | .error f =>
    ⟨.warn, "❌ Service registration failed",
      [("instance_id", .text r.id), ("error", .text f.message)]⟩

def deregisteredLog (registry id : String) : Except Failure Unit → Log.Event
  | .ok () =>
    ⟨.info, "✅ Service deregistered", [("instance_id", .text id), ("registry", .text registry)]⟩
  | .error f =>
    ⟨.warn, "⚠️ Failed to deregister service",
      [("instance_id", .text id), ("error", .text f.message)]⟩

def run (registry : String) (answer : Write → Except Failure Unit) : Operation → Outcome
  | .register kind descriptor =>
    match descriptor.validate with
    | .error f => ⟨none, .error f, []⟩
    | .ok () =>
      let r := descriptor.registration kind
      let ended := answer (.register r)
      ⟨some (.register r), ended.map fun () => some r,
        [registeringLog registry r, registeredLog r ended]⟩
  | .deregister id =>
    let ended := answer (.deregister id)
    ⟨some (.deregister id), ended.map fun () => none, [deregisteredLog registry id ended]⟩

end ServiceDiscovery.Registrar
