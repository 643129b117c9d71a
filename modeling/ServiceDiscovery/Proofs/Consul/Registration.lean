import ServiceDiscovery.Proofs.Consul.Requests
import ServiceDiscovery.Proofs.Json.RoundTrip

namespace ServiceDiscovery.Consul

open Http Json

def bodyBytes (body : Json) : List UInt8 := body.text.toUTF8.data.toList

theorem json_of_text (text : String) : jsonOfBytes? text.toUTF8.data.toList = parse? text := by
  have read : String.fromUTF8? text.toUTF8 = some text := dif_pos text.isValidUTF8
  rw [jsonOfBytes?, Array.toArray_toList, read]

theorem json_of_body (body : Json) (plain : Plain body) :
    jsonOfBytes? (bodyBytes body) = some body := by
  rw [bodyBytes, json_of_text]
  exact parse_text body plain

theorem plain_check (check : HealthCheck) : Plain (Client.checkJson check) := by
  refine .object _ fun member inside => ?_
  simp only [List.mem_cons, List.not_mem_nil, or_false] at inside
  rcases inside with rfl | rfl
  · exact .string _
  · exact .string _

theorem plain_registration (r : Registration) : Plain (Client.registrationJson r) := by
  refine .object _ fun member inside => ?_
  simp only [List.mem_cons, List.not_mem_nil, or_false] at inside
  rcases inside with rfl | rfl | rfl | rfl | rfl | rfl
  · exact .string _
  · exact .string _
  · refine .array _ fun tag inside => ?_
    obtain ⟨text, _, rfl⟩ := List.mem_map.1 inside
    exact .string text
  · exact .string _
  · exact .number _
  · exact plain_check r.check

/-- Whatever characters are in a registration, its body is read as an object with these members
and no others: identity, name, tags, address and port as they are, and a check with its interval
and, by its kind, one target. -/
theorem registration_read_from_body (client : Client) (transport : Transport) (r : Registration)
    (request : Request) (sent : (client.register transport r).request = some request) :
    ∃ body, request.body = some body ∧
      jsonOfBytes? (bodyBytes body) =
        some (.object [
          ("ID", .string r.id),
          ("Name", .string r.name),
          ("Tags", .array (r.tags.map .string)),
          ("Address", .string r.address),
          ("Port", .number r.port.toNat),
          ("Check", .object [
            ("Interval", .string (Interval.text r.check.interval)),
            match r.check.kind with
            | .protocol => ("GRPC", .string r.check.target)
            | .http => ("HTTP", .string r.check.target)])]) := by
  have built := (register_sent_iff client transport r request).1 sent
  obtain ⟨_, _, body, _⟩ := request_built built
  refine ⟨_, body, (json_of_body _ (plain_registration r)).trans ?_⟩
  rw [Client.registrationJson, Client.checkJson, HealthCheck.intervalText]
  cases r.check.kind with
  | protocol => rfl
  | http => rfl

theorem awkward_registration_read_from_body :
    let client : Client :=
      ⟨"localhost:8500", "http://localhost:8500", none, .ofSecs 10, .ofSecs 10⟩
    let r : Registration :=
      ⟨"a\"b\\", "\x01\x1f\x7f", "dü\n", 65535, ["", "\t", ""], ⟨.http, .ofMillis 1500, "→"⟩⟩
    ∃ request body, (client.register .silent r).request = some request ∧
      request.body = some body ∧
      jsonOfBytes? (bodyBytes body) =
        some (.object [
          ("ID", .string "a\"b\\"),
          ("Name", .string "\x01\x1f\x7f"),
          ("Tags", .array [.string "", .string "\t", .string ""]),
          ("Address", .string "dü\n"),
          ("Port", .number 65535),
          ("Check", .object [("Interval", .string "1500ms"), ("HTTP", .string "→")])]) := by
  intro client r
  have some_sent : (client.register .silent r).request.isSome = true := by
    decide +kernel
  obtain ⟨request, sent⟩ := Option.isSome_iff_exists.1 some_sent
  have interval : Interval.text r.check.interval = "1500ms" := by decide
  obtain ⟨body, written, read⟩ := registration_read_from_body client _ r request sent
  rw [interval] at read
  exact ⟨request, body, sent, written, read⟩

end ServiceDiscovery.Consul
