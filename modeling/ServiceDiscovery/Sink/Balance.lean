import ServiceDiscovery.Address
import ServiceDiscovery.Duration
import ServiceDiscovery.Failure
import ServiceDiscovery.Http.Uri
import ServiceDiscovery.Log

namespace ServiceDiscovery.Balance

structure Endpoint where
  uri : Http.Uri
  connectTimeout : Option Duration
deriving DecidableEq, Repr

inductive Change where
  | remove (address : NetworkAddress)
  | insert (address : NetworkAddress) (endpoint : Endpoint)
deriving DecidableEq, Repr

def Change.apply (set : AddressSet) : Change → AddressSet
  | .remove address => set.erase address
  | .insert address _ => set.insert address

def uri? (address : NetworkAddress) : Option Http.Uri := Http.Uri.parse? address.httpUri

inductive Difference where
  | removed (address : NetworkAddress)
  | added (address : NetworkAddress)
deriving DecidableEq, Repr

namespace Difference

def address : Difference → NetworkAddress
  | .removed address | .added address => address

def change? (connectTimeout : Option Duration) : Difference → Option Change
  | .removed address => some (.remove address)
  | .added address => (uri? address).map fun uri => .insert address ⟨uri, connectTimeout⟩

end Difference

-- Once its receiver is gone, nothing more is accepted.
structure Channel where
  capacity : Nat
  buffer : List Change
  isOpen : Bool

namespace Channel

def create (capacity : Nat) : Channel := ⟨capacity, [], true⟩

def take (channel : Channel) (n : Nat) : List Change × Channel :=
  (channel.buffer.take n, { channel with buffer := channel.buffer.drop n })

def close (channel : Channel) : Channel := { channel with buffer := [], isOpen := false }

end Channel

structure Sink where
  channel : Channel
  applied : AddressSet
  connectTimeout : Option Duration

inductive Attempt where
  | sent (sink : Sink) (change : Change)
  | skipped (log : Log.Event)
  | full
  | closed

structure Progress where
  sink : Sink
  pending : List Difference
  result : Option (Except Failure Unit)
  logs : List Log.Event

namespace Sink

def create (capacity : Nat) (connectTimeout : Option Duration) : Sink :=
  ⟨.create capacity, .empty, connectTimeout⟩

-- Removals, then insertions, each in order.
def differences (applied snapshot : AddressSet) : List Difference :=
  (applied.without snapshot).map .removed ++ (snapshot.without applied).map .added

def closedFailure : Failure := .ofReason .sinkUnavailable "balance channel closed"

def invalidEndpoint (address : NetworkAddress) : Failure :=
  .ofReason .sinkUnavailable ("Invalid endpoint " ++ address.display ++ ": invalid URI")

def skippedLog (address : NetworkAddress) : Log.Event :=
  ⟨.warn, "Skipping address that is not a valid endpoint",
    [("address", .text address.display), ("error", .text (invalidEndpoint address).message)]⟩

def synchronizedLog (applied : AddressSet) : Log.Event :=
  ⟨.debug, "Balance channel endpoints synchronized", [("endpoints", .count applied.size)]⟩

def send (sink : Sink) (change : Change) : Attempt :=
  if ¬ sink.channel.isOpen then .closed
  else if sink.channel.capacity ≤ sink.channel.buffer.length then .full
  else
    .sent
      { sink with
        channel := { sink.channel with buffer := sink.channel.buffer ++ [change] }
        applied := change.apply sink.applied }
      change

def attempt (sink : Sink) (difference : Difference) : Attempt :=
  match difference.change? sink.connectTimeout with
  | some change => sink.send change
  | none => .skipped (skippedLog difference.address)

def resume (sink : Sink) : List Difference → Progress
  | [] => ⟨sink, [], some (.ok ()), [synchronizedLog sink.applied]⟩
  | difference :: rest =>
    match sink.attempt difference with
    | .sent sink _ => resume sink rest
    | .skipped log =>
      let progress := resume sink rest
      { progress with logs := log :: progress.logs }
    | .full => ⟨sink, difference :: rest, none, []⟩
    | .closed => ⟨sink, difference :: rest, some (.error closedFailure), []⟩

def update (sink : Sink) (snapshot : AddressSet) : Progress :=
  sink.resume (differences sink.applied snapshot)

end Sink

end ServiceDiscovery.Balance
