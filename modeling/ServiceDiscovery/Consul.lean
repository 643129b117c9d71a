import ServiceDiscovery.Config
import ServiceDiscovery.Consul.HealthBody
import ServiceDiscovery.Http
import ServiceDiscovery.Interval
import ServiceDiscovery.Log
import ServiceDiscovery.Registration
import ServiceDiscovery.Text.Quoted

namespace ServiceDiscovery.Consul

open Http Text

structure Client where
  address : String
  baseUrl : String
  token : Option String
  waitTime : Duration
  requestTimeout : Duration
deriving DecidableEq

structure Outcome (α : Type) where
  request : Option Request
  result : Except Failure α
  logs : List Log.Event

-- How requests are answered, with the tables by which the texts of answers are decoded.
structure Transport where
  exchange : Request → Exchange
  tables : Tables

instance : CoeFun Transport fun _ => Request → Exchange := ⟨Transport.exchange⟩

namespace Client

def defaultRequestTimeout : Duration := .ofSecs 10

def trimSlashes (s : List Char) : List Char := (s.reverse.dropWhile (· == '/')).reverse

def baseUrlOf (address : String) : String :=
  let trimmed := String.ofList (trimSlashes address.toList)
  if "http://".toList.isPrefixOf address.toList ∨ "https://".toList.isPrefixOf address.toList then
    trimmed
  else "http://" ++ trimmed

-- A wait of zero would let the registry hold a query for as long as it likes, so there is none.
def create (address : String) (options : ClientOptions) (requestTimeout : Duration) :
    Except Failure Client :=
  if address = "" then .error (.configuration "registry address is empty")
  else if options.interval.isZero then
    .error ((Failure.configuration "long-poll interval must be positive").withParam
      "address" address)
  else
    .ok {
      address, baseUrl := baseUrlOf address, token := options.authPass
      waitTime := options.interval.shorter maxWaitTime, requestTimeout }

-- How long a blocking query may take: the wait, the sixteenth of it by which the registry spreads
-- its answers, and the time of any other request.
def blockingTimeout (client : Client) : Duration :=
  (client.waitTime.add (client.waitTime.divide 16)).add client.requestTimeout

-- The client for people to read; of the token only whether there is one.
def describe (client : Client) : String :=
  let token := client.token.elim "None" fun _ => "Some(\"<redacted>\")"
  "ConsulClient \x7b address: " ++ quote client.address ++ ", base_url: " ++
    quote client.baseUrl ++ ", token: " ++ token ++ ", wait_time: " ++ client.waitTime.text ++
    ", request_timeout: " ++ client.requestTimeout.text ++ " \x7d"

-- Characters of a header's value: no control but the tab.
def isHeaderChar (c : Char) : Bool := c == '\t' || (0x20 ≤ c.toNat && c.toNat ≠ 0x7f)

def legalToken (token : Option String) : Bool := token.all fun t => t.toList.all isHeaderChar

def notBuilt : String := "builder error"

def request (client : Client) (method : Method) (url : String) (pairs : List (String × String))
    (body : Option Json) (timeout : Duration) : Except String Request :=
  match Url.parse? url with
  | none => .error notBuilt
  | some url =>
    if ¬ legalToken client.token then .error notBuilt
    else
      let url := url.withoutCredentials
      let url := if pairs = [] then url else url.withPairs pairs
      if (Uri.parse? url.text).isNone then .error (notBuilt ++ " for url (" ++ url.text ++ ")")
      else .ok { method, url, token := client.token, body, timeout }

def notSent (request : Request) : String :=
  "error sending request for url (" ++ request.url.text ++ ")"

def accepted (tables : Tables) (code : FailureCode) (action : String) (r : Response) :
    Except Failure Response :=
  if r.successful then .ok r
  else
    .error (((Failure.ofReason code
      (action ++ " rejected with status " ++ statusText r.status)).withDetails
        (r.bodyText tables)).withParam "status" (toString r.status))

def send (transport : Transport) (built : Except String Request) (unanswered rejected : FailureCode)
    (reason action : String) : Option Request × Except Failure Response :=
  match built with
  | .error cause => (none, .error (.ofCause unanswered reason cause))
  | .ok request =>
    (some request, match transport request with
      | .silence => .error (.ofCause unanswered reason (notSent request))
      | .response r => accepted transport.tables rejected action r)

def healthPairs (client : Client) (query : HealthQuery) : List (String × String) :=
  [("index", toString query.waitIndex.toNat), ("wait", Interval.text client.waitTime)] ++
    (if query.passingOnly then [("passing", "true")] else []) ++
    query.tag.elim [] fun tag => [("tag", tag)]

def healthRequest (client : Client) (query : HealthQuery) : Except String Request :=
  client.request .get (client.baseUrl ++ "/v1/health/service/" ++ query.service)
    (client.healthPairs query) none client.blockingTimeout

-- A number that fits 64 bits, with or without a plus sign.
def index? (text : String) : Option UInt64 :=
  match text.toList with
  | '+' :: digits => decimal64? digits
  | digits => decimal64? digits

def readHealth (r : Response) : Except Failure HealthResponse :=
  match (r.headerText? "X-Consul-Index").bind index? with
  | none => .error (.ofReason .pollDecodeFailed "Consul response missing X-Consul-Index")
  | some index =>
    match r.body.bind healthEntries? with
    | none =>
      .error (.ofCause .pollDecodeFailed "Failed to parse Consul health response"
        "error decoding response body")
    | some body => .ok { entries := body.map HealthEntry.entry, index }

def healthLogs (query : HealthQuery) : Except Failure HealthResponse → List Log.Event
  | .error _ => []
  | .ok answer =>
    [⟨.debug, "Consul health query returned",
      [("service", .text query.service), ("index", .count answer.index.toNat),
        ("instances", .count answer.entries.length)]⟩]

def health (client : Client) (transport : Transport) (query : HealthQuery) :
    Outcome HealthResponse :=
  let (request, answer) := send transport (client.healthRequest query) .pollFailed .pollRejected
    "Failed to query service health from Consul" "Consul health query"
  let result := answer.bind readHealth
  { request, result, logs := healthLogs query result }

def checkJson (check : HealthCheck) : Json :=
  .object [("Interval", .string check.intervalText),
    (match check.kind with | .protocol => "GRPC" | .http => "HTTP", .string check.target)]

def registrationJson (r : Registration) : Json :=
  .object [("ID", .string r.id), ("Name", .string r.name), ("Tags", .array (r.tags.map .string)),
    ("Address", .string r.address), ("Port", .number r.port.toNat), ("Check", checkJson r.check)]

def registerRequest (client : Client) (r : Registration) : Except String Request :=
  client.request .put (client.baseUrl ++ "/v1/agent/service/register") []
    (some (registrationJson r)) client.requestTimeout

def register (client : Client) (transport : Transport) (r : Registration) : Outcome Unit :=
  let (request, answer) := send transport (client.registerRequest r) .registrationFailed
    .registrationRejected "Failed to register service with Consul" "Consul service registration"
  { request, result := answer.map fun _ => (), logs := [] }

def deregisterRequest (client : Client) (id : String) : Except String Request :=
  client.request .put (client.baseUrl ++ "/v1/agent/service/deregister/" ++ id) [] none
    client.requestTimeout

def deregister (client : Client) (transport : Transport) (id : String) : Outcome Unit :=
  let (request, answer) := send transport (client.deregisterRequest id) .registrationFailed
    .registrationRejected "Failed to deregister service from Consul"
    "Consul service deregistration"
  { request, result := answer.map fun _ => (), logs := [] }

end Client

end ServiceDiscovery.Consul
