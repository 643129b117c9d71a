import ServiceDiscovery.Failure
import ServiceDiscovery.Health
import ServiceDiscovery.Json.Parser
import ServiceDiscovery.Json.Record
import ServiceDiscovery.Registration

namespace ServiceDiscovery

namespace FailureCode

def json (code : FailureCode) : Json := .string code.name
def ofJson? : Json → Option FailureCode := Json.named? ofName?

end FailureCode

namespace FailureCategory

def json (category : FailureCategory) : Json := .string category.name
def ofJson? : Json → Option FailureCategory := Json.named? ofName?

end FailureCategory

namespace CheckStatus

def json (status : CheckStatus) : Json := .string status.name
def ofJson? : Json → Option CheckStatus := Json.named? ofName?

end CheckStatus

namespace CheckKind

def json (kind : CheckKind) : Json := .string kind.name
def ofJson? : Json → Option CheckKind := Json.named? ofName?

end CheckKind

namespace NetworkAddress

def json (address : NetworkAddress) : Json :=
  .object [("host", .string address.host), ("port", .number address.port.toNat)]

def ofJson? (j : Json) : Option NetworkAddress := do
  let fields ← j.fields? ["host", "port"]
  return {
    host := ← fields.required "host" Json.text?
    port := ← fields.required "port" Json.uint16? }

end NetworkAddress

namespace AddressSet

def json (set : AddressSet) : Json := .array (set.toList.map NetworkAddress.json)

def ofJson? (j : Json) : Option AddressSet := (j.list? NetworkAddress.ofJson?).map ofList

end AddressSet

def tagsJson (tags : List String) : Json := .array (tags.map .string)

namespace ServiceEntry

def json (entry : ServiceEntry) : Json :=
  .object [("id", .string entry.id), ("service", .string entry.service),
    ("address", .string entry.address), ("node_address", .string entry.nodeAddress),
    ("port", .number entry.port.toNat), ("tags", tagsJson entry.tags),
    ("status", entry.status.json)]

def ofJson? (j : Json) : Option ServiceEntry := do
  let fields ← j.fields? ["id", "service", "address", "node_address", "port", "tags", "status"]
  return {
    id := ← fields.required "id" Json.text?
    service := ← fields.required "service" Json.text?
    address := ← fields.required "address" Json.text?
    nodeAddress := ← fields.required "node_address" Json.text?
    port := ← fields.required "port" Json.uint16?
    tags := ← fields.required "tags" (Json.list? Json.text?)
    status := ← fields.required "status" CheckStatus.ofJson? }

end ServiceEntry

namespace HealthCheck

def json (check : HealthCheck) : Json :=
  .object [("kind", check.kind.json), ("interval", Json.ofDuration check.interval),
    ("target", .string check.target)]

def ofJson? (j : Json) : Option HealthCheck := do
  let fields ← j.fields? ["kind", "interval", "target"]
  return {
    kind := ← fields.required "kind" CheckKind.ofJson?
    interval := ← fields.required "interval" Json.duration?
    target := ← fields.required "target" Json.text? }

end HealthCheck

namespace InstanceDescriptor

def json (d : InstanceDescriptor) : Json :=
  .object [("name", .string d.name), ("address", .string d.address),
    ("port", .number d.port.toNat), ("tags", tagsJson d.tags),
    ("health_check_interval", Json.ofDuration d.checkInterval)]

def ofJson? (j : Json) : Option InstanceDescriptor := do
  let fields ← j.fields? ["name", "address", "port", "tags", "health_check_interval"]
  return {
    name := ← fields.required "name" Json.text?
    address := ← fields.required "address" Json.text?
    port := ← fields.required "port" Json.uint16?
    tags := ← fields.required "tags" (Json.list? Json.text?)
    checkInterval := ← fields.required "health_check_interval" Json.duration? }

end InstanceDescriptor

namespace Registration

def json (r : Registration) : Json :=
  .object [("id", .string r.id), ("name", .string r.name), ("address", .string r.address),
    ("port", .number r.port.toNat), ("tags", tagsJson r.tags), ("check", r.check.json)]

def ofJson? (j : Json) : Option Registration := do
  let fields ← j.fields? ["id", "name", "address", "port", "tags", "check"]
  return {
    id := ← fields.required "id" Json.text?
    name := ← fields.required "name" Json.text?
    address := ← fields.required "address" Json.text?
    port := ← fields.required "port" Json.uint16?
    tags := ← fields.required "tags" (Json.list? Json.text?)
    check := ← fields.required "check" HealthCheck.ofJson? }

end Registration

def unreadableJson : String := "JSON 解析错误"

def readJson (ofJson? : Json → Option α) (text : String) : Except Failure α :=
  match (Json.parse? text).bind ofJson? with
  | some record => .ok record
  | none => .error (.ofCause .pollDecodeFailed unreadableJson "not such a record in JSON")

theorem readJson_ok_iff (ofJson? : Json → Option α) (text : String) (record : α) :
    readJson ofJson? text = .ok record ↔ (Json.parse? text).bind ofJson? = some record := by
  unfold readJson
  split
  · rename_i read
    rw [read, Except.ok.injEq, Option.some_inj]
  · rename_i unread
    rw [unread]
    exact ⟨fun failed => (by cases failed), fun failed => (by cases failed)⟩

end ServiceDiscovery
