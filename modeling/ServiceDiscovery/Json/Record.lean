import ServiceDiscovery.Json
import ServiceDiscovery.Record
import ServiceDiscovery.Duration

namespace ServiceDiscovery.Json

def text? : Json → Option String
  | .string s => some s
  | _ => none

def bool? : Json → Option Bool
  | .bool b => some b
  | _ => none

def below? (bound : Nat) : Json → Option Nat
  | .number n => if n < bound then some n else none
  | _ => none

def uint16? (j : Json) : Option UInt16 := (j.below? (2 ^ 16)).map UInt16.ofNat
def uint64? (j : Json) : Option UInt64 := (j.below? (2 ^ 64)).map UInt64.ofNat

def list? (item? : Json → Option α) : Json → Option (List α)
  | .array items => items.mapM item?
  | _ => none

def nullable? (item? : Json → Option α) : Json → Option (Option α)
  | .null => some none
  | j => (item? j).map some

-- One of several names, written as a string or as an object whose only member is null.
def named? (ofName? : String → Option α) : Json → Option α
  | .string s => ofName? s
  | .object [(name, .null)] => ofName? name
  | _ => none

def fields? (names : List String) : Json → Option (Fields Json)
  | .object members => Fields.ofMembers? names members
  | .array items => if items.length ≤ names.length then some (Fields.ofItems names items) else none
  | _ => none

def onlyFields? (names : List String) (j : Json) : Option (Fields Json) :=
  match j with
  | .object members =>
    if members.all (fun m => names.contains m.1) then Fields.ofMembers? names members else none
  | _ => j.fields? names

def isNull : Json → Bool
  | .null => true
  | _ => false

def format : Format Json := ⟨fields?, bool?, uint64?, text?, isNull⟩

def ofDuration (d : Duration) : Json :=
  .object [("secs", .number d.secs), ("nanos", .number d.subsecNanos)]

-- Seconds and nanoseconds; nanoseconds beyond a second count as seconds.
def duration? (j : Json) : Option Duration := do
  let fields ← j.onlyFields? ["secs", "nanos"]
  let secs ← fields.required "secs" (below? (2 ^ 64))
  let nanos ← fields.required "nanos" (below? (2 ^ 32))
  Duration.ofParts? secs nanos

end ServiceDiscovery.Json
