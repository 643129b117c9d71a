namespace ServiceDiscovery

inductive FailureCode where
  | missingAddress | invalidUri | unsupportedScheme
  | registrationFailed | registrationRejected | invalidRegistration
  | pollFailed | pollRejected | pollDecodeFailed
  | resolverClosed | sinkUnavailable
  | internalError | configurationError | clientBuildFailed
deriving DecidableEq, Repr

inductive FailureCategory where
  | invalidTargetFormat | registration | poll | resolver | system
deriving DecidableEq, Repr

namespace FailureCategory

def all : List FailureCategory := [.invalidTargetFormat, .registration, .poll, .resolver, .system]

def name : FailureCategory → String
  | .invalidTargetFormat => "INVALID_TARGET_FORMAT"
  | .registration => "REGISTRATION"
  | .poll => "POLL"
  | .resolver => "RESOLVER"
  | .system => "SYSTEM"

def ofName? (name : String) : Option FailureCategory := all.find? (·.name == name)

end FailureCategory

namespace FailureCode

def all : List FailureCode :=
  [.missingAddress, .invalidUri, .unsupportedScheme,
    .registrationFailed, .registrationRejected, .invalidRegistration,
    .pollFailed, .pollRejected, .pollDecodeFailed,
    .resolverClosed, .sinkUnavailable,
    .internalError, .configurationError, .clientBuildFailed]

def name : FailureCode → String
  | .missingAddress => "MISSING_ADDRESS"
  | .invalidUri => "INVALID_URI"
  | .unsupportedScheme => "UNSUPPORTED_SCHEME"
  | .registrationFailed => "REGISTRATION_FAILED"
  | .registrationRejected => "REGISTRATION_REJECTED"
  | .invalidRegistration => "INVALID_REGISTRATION"
  | .pollFailed => "POLL_FAILED"
  | .pollRejected => "POLL_REJECTED"
  | .pollDecodeFailed => "POLL_DECODE_FAILED"
  | .resolverClosed => "RESOLVER_CLOSED"
  | .sinkUnavailable => "SINK_UNAVAILABLE"
  | .internalError => "INTERNAL_ERROR"
  | .configurationError => "CONFIGURATION_ERROR"
  | .clientBuildFailed => "CLIENT_BUILD_FAILED"

def ofName? (name : String) : Option FailureCode := all.find? (·.name == name)

def number : FailureCode → Nat
  | .missingAddress => 1000
  | .invalidUri => 1001
  | .unsupportedScheme => 1002
  | .registrationFailed => 2000
  | .registrationRejected => 2001
  | .invalidRegistration => 2002
  | .pollFailed => 3000
  | .pollRejected => 3001
  | .pollDecodeFailed => 3002
  | .resolverClosed => 4000
  | .sinkUnavailable => 4001
  | .internalError => 6000
  | .configurationError => 6001
  | .clientBuildFailed => 6002

-- Each category owns the numbers of one thousand; the system takes the rest.
def category (code : FailureCode) : FailureCategory :=
  match code.number / 1000 with
  | 1 => .invalidTargetFormat
  | 2 => .registration
  | 3 => .poll
  | 4 => .resolver
  | _ => .system

-- A failed poll is always worth another; of the registration failures only the one in which the
-- registry gave no verdict.
def retryable : FailureCode → Bool
  | .pollFailed | .pollRejected | .pollDecodeFailed | .registrationFailed => true
  | _ => false

theorem ofName?_name (code : FailureCode) : ofName? code.name = some code := by
  cases code <;> decide

end FailureCode

theorem FailureCategory.ofName?_name (category : FailureCategory) :
    FailureCategory.ofName? category.name = some category := by
  cases category <;> decide

structure Failure where
  code : FailureCode
  reason : String
  details : Option String
  params : List (String × String)
deriving DecidableEq, Repr

namespace Failure

def ofReason (code : FailureCode) (reason : String) : Failure := ⟨code, reason, none, []⟩

def withDetails (failure : Failure) (details : String) : Failure :=
  { failure with details := some details }

def withParam (failure : Failure) (key value : String) : Failure :=
  { failure with params := failure.params.filter (·.1 != key) ++ [(key, value)] }

def param? (failure : Failure) (key : String) : Option String := failure.params.lookup key

def message (failure : Failure) : String := "[" ++ failure.code.name ++ "] " ++ failure.reason

def missingAddress : Failure := ofReason .missingAddress "consul resolver: missing address"

def invalidUri (target : String) : Failure :=
  (ofReason .invalidUri "consul resolver: invalid uri").withParam "target" target

def unsupportedScheme (scheme : String) : Failure :=
  (ofReason .unsupportedScheme "consul resolver: unsupported scheme").withParam "scheme" scheme

def configuration (reason : String) : Failure := ofReason .configurationError reason
def internal (reason : String) : Failure := ofReason .internalError reason

def ofCause (code : FailureCode) (reason cause : String) : Failure :=
  (ofReason code reason).withDetails cause

end Failure

def orFail (result : Except String α) (code : FailureCode) (reason : String) : Except Failure α :=
  match result with
  | .ok a => .ok a
  | .error cause => .error (.ofCause code reason cause)

end ServiceDiscovery
