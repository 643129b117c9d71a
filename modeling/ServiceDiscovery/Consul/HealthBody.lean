import ServiceDiscovery.Health
import ServiceDiscovery.Http.Charset
import ServiceDiscovery.Json.Parser
import ServiceDiscovery.Json.Record

/-!
The registry's answer to a health query: an array of entries, each with a node, a service and the
checks of that service. Members that this library does not know are skipped.
-/
namespace ServiceDiscovery.Consul

structure ServicePart where
  id : String
  service : String
  tags : List String
  address : String
  port : UInt16
deriving DecidableEq, Repr

structure HealthEntry where
  node : String
  service : ServicePart
  checks : List String
deriving DecidableEq, Repr

-- The worst of its checks is the status of an entry, and without checks it is passing.
def HealthEntry.entry (e : HealthEntry) : ServiceEntry where
  id := e.service.id
  service := e.service.service
  address := e.service.address
  nodeAddress := e.node
  port := e.service.port
  tags := e.service.tags
  status := (CheckStatus.worst? (e.checks.map CheckStatus.ofWire)).getD .passing

def nodeAddress? (j : Json) : Option String := do
  (← j.fields? ["Address"]).defaulted "Address" "" Json.text?

def checkStatus? (j : Json) : Option String := do
  (← j.fields? ["Status"]).required "Status" Json.text?

def servicePart? (j : Json) : Option ServicePart := do
  let fields ← j.fields? ["ID", "Service", "Tags", "Address", "Port"]
  let tags ← fields.defaulted "Tags" none (Json.nullable? (Json.list? Json.text?))
  return {
    id := ← fields.defaulted "ID" "" Json.text?
    service := ← fields.defaulted "Service" "" Json.text?
    tags := tags.getD []
    address := ← fields.defaulted "Address" "" Json.text?
    port := ← fields.required "Port" Json.uint16? }

def healthEntry? (j : Json) : Option HealthEntry := do
  let fields ← j.fields? ["Node", "Service", "Checks"]
  return {
    node := ← fields.defaulted "Node" "" nodeAddress?
    service := ← fields.required "Service" servicePart?
    checks := ← fields.defaulted "Checks" [] (Json.list? checkStatus?) }

-- Stands for bytes that are no character. Its unpaired surrogate leaves a string without text, so
-- only what is skipped may hold such bytes; its letter belongs to no escape and to no other value.
def noCharacter : List Char := "x\\ud800\\u0000".toList

def jsonOfBytes? (bytes : List UInt8) : Option Json :=
  match String.fromUTF8? ⟨bytes.toArray⟩ with
  | some text => Json.parse? text
  | none => Json.parse? (.ofList (Http.Charset.decodeUtf8From noCharacter none bytes))

def healthEntries? (body : List UInt8) : Option (List HealthEntry) := do
  (← jsonOfBytes? body).list? healthEntry?

end ServiceDiscovery.Consul
