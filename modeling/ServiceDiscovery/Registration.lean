import ServiceDiscovery.Failure
import ServiceDiscovery.Interval

namespace ServiceDiscovery

inductive CheckKind where
  | protocol | http
deriving DecidableEq, Repr

namespace CheckKind

def all : List CheckKind := [.protocol, .http]

def name : CheckKind → String
  | .protocol => "protocol"
  | .http => "http"

def ofName? (name : String) : Option CheckKind := all.find? (·.name == name)

def label : CheckKind → String
  | .protocol => "Protocol"
  | .http => "Http"

theorem ofName?_name (kind : CheckKind) : ofName? kind.name = some kind := by
  cases kind <;> decide

end CheckKind

structure HealthCheck where
  kind : CheckKind
  interval : Duration
  target : String
deriving DecidableEq, Repr

namespace HealthCheck

def defaultInterval : Duration := .ofSecs 10

-- No interval means the default one.
def effectiveInterval (interval : Duration) : Duration :=
  if interval.isZero then defaultInterval else interval

def protocol (address : String) (port : UInt16) (name : String) (interval : Duration) :
    HealthCheck :=
  ⟨.protocol, effectiveInterval interval, address ++ ":" ++ toString port.toNat ++ "/" ++ name⟩

def http (address : String) (port : UInt16) (interval : Duration) : HealthCheck :=
  ⟨.http, effectiveInterval interval, "http://" ++ address ++ ":" ++ toString port.toNat⟩

def intervalText (check : HealthCheck) : String := Interval.text check.interval

end HealthCheck

structure InstanceDescriptor where
  name : String
  address : String
  port : UInt16
  tags : List String
  checkInterval : Duration
deriving DecidableEq, Repr

structure Registration where
  id : String
  name : String
  address : String
  port : UInt16
  tags : List String
  check : HealthCheck
deriving DecidableEq, Repr

namespace InstanceDescriptor

def instanceId (d : InstanceDescriptor) : String :=
  d.name ++ "-" ++ d.address ++ "-" ++ toString d.port.toNat

def validate (d : InstanceDescriptor) : Except Failure Unit :=
  if d.name = "" then .error (.ofReason .invalidRegistration "service name is empty")
  else if d.address = "" then
    .error ((Failure.ofReason .invalidRegistration "service address is empty").withParam
      "service" d.name)
  else .ok ()

def registrationTags (d : InstanceDescriptor) : List String :=
  if d.name ∈ d.tags then d.tags else d.name :: d.tags

theorem validate_ok_iff (d : InstanceDescriptor) :
    d.validate = .ok () ↔ d.name ≠ "" ∧ d.address ≠ "" := by
  unfold validate
  split
  · simp_all
  · split <;> simp_all

theorem name_mem_registrationTags (d : InstanceDescriptor) : d.name ∈ d.registrationTags := by
  unfold registrationTags
  split
  · assumption
  · exact List.mem_cons_self

def check (d : InstanceDescriptor) : CheckKind → HealthCheck
  | .protocol => .protocol d.address d.port d.name d.checkInterval
  | .http => .http d.address d.port d.checkInterval

def registration (d : InstanceDescriptor) (kind : CheckKind) : Registration :=
  ⟨d.instanceId, d.name, d.address, d.port, d.registrationTags, d.check kind⟩

end InstanceDescriptor

end ServiceDiscovery
