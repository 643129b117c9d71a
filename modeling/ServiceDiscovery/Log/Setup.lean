import ServiceDiscovery.Config
import ServiceDiscovery.Log.Filter
import ServiceDiscovery.Text.Quoted

namespace ServiceDiscovery.Log

open Text

inductive LineFormat where
  | pretty | compact | json
deriving DecidableEq, Repr

def LineFormat.ofName? : String → Option LineFormat
  | "pretty" => some .pretty
  | "compact" => some .compact
  | "json" => some .json
  | _ => none

structure Logger where
  filter : Filter
  format : LineFormat

inductive SetupFault where
  | level (text : String) (fault : DirectiveFault)
  | format (name : String)
  | alreadySet

def SetupFault.message : SetupFault → String
  | .level text fault => "invalid log level " ++ quote text ++ ": " ++ fault.message
  | .format name => "unknown log format: " ++ name
  | .alreadySet => "a global default trace dispatcher has already been set"

-- A filter from the environment comes first; one that cannot be read is passed over.
def chooseFilter (environment : Option String) (level : String) : Except DirectiveFault Filter :=
  match environment.map Filter.parse with
  | some (.ok filter) => .ok filter
  | _ => Filter.parse level

def setup (installed : Option Logger) (environment : Option String) (config : LoggingConfig) :
    Except SetupFault Logger :=
  match chooseFilter environment config.level with
  | .error fault => .error (.level config.level fault)
  | .ok filter =>
    match LineFormat.ofName? config.format with
    | none => .error (.format config.format)
    | some format => if installed.isSome then .error .alreadySet else .ok ⟨filter, format⟩

def setups (environment : Option String) (config : LoggingConfig) :
    Nat → Option Logger → Option Logger × List (Except SetupFault Unit)
  | 0, installed => (installed, [])
  | n + 1, installed =>
    match setup installed environment config with
    | .ok logger =>
      let (last, outcomes) := setups environment config n (some logger)
      (last, .ok () :: outcomes)
    | .error fault =>
      let (last, outcomes) := setups environment config n installed
      (last, .error fault :: outcomes)

namespace Value

def shown : Value → String
  | .text s => quote s
  | .count n => toString n

def json : Value → Json
  | .text s => .string s
  | .count n => .number n

end Value

namespace Logger

def enables (logger : Logger) (level : Level) (target : String) : Bool :=
  logger.filter.enables level target none

def prints (logger : Logger) (target : String) (event : Event) : Bool :=
  logger.filter.enables event.level target (some ("message" :: event.fields.map (·.1)))

def line (separator equals : String) (target : String) (event : Event) : String :=
  event.level.name ++ " " ++ target ++ ": " ++ event.message ++
    String.join (event.fields.map fun (name, v) => separator ++ name ++ equals ++ v.shown)

def record (target : String) (event : Event) : Json :=
  .object [("level", .string event.level.name),
    ("fields", .object (("message", .string event.message) ::
      event.fields.map fun (name, v) => (name, v.json))),
    ("target", .string target)]

def print (logger : Logger) (target : String) (event : Event) : Option String :=
  if logger.prints target event then
    some (match logger.format with
      | .pretty => line ", " ": " target event
      | .compact => line " " "=" target event
      | .json => (record target event).text)
  else none

end Logger

end ServiceDiscovery.Log
