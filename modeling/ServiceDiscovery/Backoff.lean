import ServiceDiscovery.Duration

/-!
How long to wait after failures in a row. A policy may answer each consultation differently, so it
is given the number of earlier consultations along with the length of the streak.
-/
namespace ServiceDiscovery

-- From the number of earlier consultations and the length of the streak to a delay.
abbrev RetryPolicy := Nat → Nat → Duration

namespace Backoff

def maxDoublings : Nat := 16

def capped (base longest : Duration) (attempt : Nat) : Duration :=
  (base.scale (2 ^ min (attempt - 1) maxDoublings)).shorter longest

def choices (delay : Duration) : Nat :=
  let ms := delay.millis % 2 ^ 64
  if ms / 2 = 0 then 0 else ms - ms / 2 + 1

-- A delay of whole milliseconds between half of `delay` and `delay`, picked by `draw`; a delay
-- too short to halve stays as it is.
def jittered (delay : Duration) (draw : Nat) : Duration :=
  let ms := delay.millis % 2 ^ 64
  if ms / 2 = 0 then delay
  else .ofMillis (UInt64.ofNat (ms / 2 + draw % choices delay))

def fixed (delay : Duration) : RetryPolicy := fun _ _ => delay

def exponential (base longest : Duration) : RetryPolicy := fun _ attempt =>
  capped base longest attempt

def spread (base longest : Duration) (draws : Nat → Nat) : RetryPolicy := fun n attempt =>
  jittered (capped base longest attempt) (draws n)

end Backoff

end ServiceDiscovery
