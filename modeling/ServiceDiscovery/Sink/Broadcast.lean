import ServiceDiscovery.Address
import ServiceDiscovery.Failure

namespace ServiceDiscovery.Broadcast

structure Receiver where
  id : Nat
  seen : Nat
deriving DecidableEq, Repr

structure Sink where
  snapshot : AddressSet
  version : Nat
  receivers : List Receiver
deriving DecidableEq

namespace Sink

def create (receiver : Nat) : Sink := ⟨.empty, 0, [⟨receiver, 0⟩]⟩

-- Shows a snapshot to all receivers; without any, nothing changes.
def update (sink : Sink) (snapshot : AddressSet) : Sink × Except Failure Unit :=
  if sink.receivers = [] then
    (sink, .error (.ofReason .sinkUnavailable "all address snapshot receivers dropped"))
  else ({ sink with snapshot, version := sink.version + 1 }, .ok ())

def drop (sink : Sink) (id : Nat) : Sink :=
  { sink with receivers := sink.receivers.filter (·.id ≠ id) }

def subscribe (sink : Sink) (id : Nat) : Sink :=
  { sink with receivers := (sink.drop id).receivers ++ [⟨id, sink.version⟩] }

def has (sink : Sink) (id : Nat) : Bool := sink.receivers.any (·.id == id)

def read (sink : Sink) (id : Nat) : Sink × Option AddressSet :=
  ({ sink with receivers := sink.receivers.map fun r =>
      if r.id = id then { r with seen := sink.version } else r },
    if sink.has id then some sink.snapshot else none)

def changed (sink : Sink) (receiver : Receiver) : Bool := receiver.seen ≠ sink.version

end Sink

end ServiceDiscovery.Broadcast
