namespace ServiceDiscovery.Log

inductive Level where
  | error | warn | info | debug | trace
deriving DecidableEq, Repr

namespace Level

def all : List Level := [.error, .warn, .info, .debug, .trace]

def name : Level → String
  | .error => "ERROR"
  | .warn => "WARN"
  | .info => "INFO"
  | .debug => "DEBUG"
  | .trace => "TRACE"

def rank : Level → Nat
  | .error => 1
  | .warn => 2
  | .info => 3
  | .debug => 4
  | .trace => 5

end Level

inductive Value where
  | text (s : String)
  | count (n : Nat)
deriving DecidableEq, Repr

structure Event where
  level : Level
  message : String
  fields : List (String × Value)
deriving DecidableEq, Repr

end ServiceDiscovery.Log
