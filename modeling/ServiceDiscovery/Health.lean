import ServiceDiscovery.Address

namespace ServiceDiscovery

inductive CheckStatus where
  | passing | warning | critical | maintenance
deriving DecidableEq, Repr

namespace CheckStatus

def all : List CheckStatus := [.passing, .warning, .critical, .maintenance]

def name : CheckStatus → String
  | .passing => "passing"
  | .warning => "warning"
  | .critical => "critical"
  | .maintenance => "maintenance"

def ofName? (name : String) : Option CheckStatus := all.find? (·.name == name)

-- A status that this library does not know is as bad as a critical one.
def ofWire (status : String) : CheckStatus := (ofName? status).getD .critical

def severity : CheckStatus → Nat
  | .passing => 0
  | .warning => 1
  | .critical => 2
  | .maintenance => 3

def worse (a b : CheckStatus) : CheckStatus := if a.severity ≤ b.severity then b else a

def worst? : List CheckStatus → Option CheckStatus
  | [] => none
  | s :: rest => some (rest.foldl worse s)

theorem ofName?_name (status : CheckStatus) : ofName? status.name = some status := by
  cases status <;> decide

theorem severity_worse (a b : CheckStatus) :
    (worse a b).severity = max a.severity b.severity := by
  unfold worse
  split <;> omega

theorem severity_foldl_worse_le (rest : List CheckStatus) (s : CheckStatus) (n : Nat) :
    (rest.foldl worse s).severity ≤ n ↔ s.severity ≤ n ∧ ∀ t ∈ rest, t.severity ≤ n := by
  induction rest generalizing s with
  | nil => simp
  | cons t rest ih =>
    rw [List.foldl_cons, ih, severity_worse, Nat.max_le, List.forall_mem_cons, and_assoc]

end CheckStatus

structure ServiceEntry where
  id : String
  service : String
  address : String
  nodeAddress : String
  port : UInt16
  tags : List String
  status : CheckStatus
deriving DecidableEq, Repr

namespace ServiceEntry

def healthy (entry : ServiceEntry) : Bool := entry.status == .passing

-- Where to reach the instance: its own address, or its node's where it has none.
def networkAddress? (entry : ServiceEntry) : Option NetworkAddress :=
  let host := if entry.address = "" then entry.nodeAddress else entry.address
  if host = "" then none else some ⟨host, entry.port⟩

end ServiceEntry

structure HealthQuery where
  service : String
  tag : Option String := none
  passingOnly : Bool := true
  waitIndex : UInt64 := 0
deriving DecidableEq, Repr

structure HealthResponse where
  entries : List ServiceEntry
  index : UInt64
deriving DecidableEq, Repr

end ServiceDiscovery
