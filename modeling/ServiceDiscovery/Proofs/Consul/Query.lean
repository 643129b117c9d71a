import ServiceDiscovery.Proofs.Consul.Polling
import ServiceDiscovery.Proofs.Url.Form

namespace ServiceDiscovery.Consul

open Http Text Url

def queryForm (options : ClientOptions) (query : HealthQuery) : List (String × String) :=
  let index := ("index", toString query.waitIndex.toNat)
  let wait := ("wait", Interval.text (options.interval.shorter (.ofSecs 600)))
  let passing := if query.passingOnly then [("passing", "true")] else []
  let tag := match query.tag with
    | some tag => [("tag", tag)]
    | none => []
  index :: wait :: (passing ++ tag)

def askedAt (registry target : Target) : Target :=
  { registry with service := target.service, service_run := target.service_run }

theorem health_pairs_form {address : String} {options : ClientOptions} {timeout : Duration}
    {client : Client} (created : Client.create address options timeout = .ok client)
    (query : HealthQuery) : client.healthPairs query = queryForm options query := by
  rw [client_of_created created, Client.healthPairs, queryForm]
  cases query.tag with
  | none => rfl
  | some tag => rfl

theorem poll_url_path (target : Target) (host : String) (pairs : List (String × String)) :
    (pollUrl target host pairs).pathText = "/v1/health/service/" ++ target.service := by
  have last : (pollUrl target host pairs).path =
      ["v1", "health", "service"] ++ [.ofList target.service.toList] := by
    rw [String.ofList_toList]
    rfl
  rw [← String.toList_inj, path_text_last _ _ _ last, String.toList_append]
  rfl

theorem poll_url_text (target : Target) (host : String) (pairs : List (String × String)) :
    (pollUrl target host pairs).text =
      "http://" ++ (pollUrl target host pairs).authorityText ++ "/v1/health/service/" ++
        target.service ++ "?" ++ .ofList (formPairs pairs) := by
  have whole : (pollUrl target host pairs).fragment = none := rfl
  have insecure : (pollUrl target host pairs).secure = false := rfl
  have query : (pollUrl target host pairs).query = some (.ofList (formPairs pairs)) := rfl
  rw [Url.text, requestText, poll_url_path, whole, insecure, query]
  simp [String.append_assoc]

/-- A request for the health of a target's service at any target's registry is a GET below the
path of health queries, and its query string is read as a form with the index, the wait, whether
only passing instances count, and the tag, if there is one, as it is. -/
theorem query_read_from_request (registry target : Target) (options : ClientOptions)
    (timeout : Duration) (client : Client)
    (created : Client.create registry.registryAddress options timeout = .ok client)
    (transport : Transport) (query : HealthQuery) (named : query.service = target.service)
    (request : Request) (sent : (client.health transport query).request = some request) :
    request.method = .get ∧ request.body = none ∧
      request.url.pathText = "/v1/health/service/" ++ target.service ∧
      ∃ text, request.url.query = some text ∧
        request.url.text = "http://" ++ request.url.authorityText ++ "/v1/health/service/" ++
          target.service ++ "?" ++ text ∧
        formRead? text.toList = some (queryForm options query) := by
  have built := (health_sent_iff client transport query request).1 sent
  have base : client.baseUrl = "http://" ++ (askedAt registry target).registryAddress :=
    base_url_of_target created
  have legal : Client.legalToken client.token = true := legal_of_built built
  obtain ⟨host, _, _, rfl⟩ := (health_request_iff base legal query named request).1 built
  refine ⟨rfl, rfl, poll_url_path _ host _, _, rfl, poll_url_text _ host _, ?_⟩
  rw [String.toList_ofList, form_read_pairs, health_pairs_form created]

-- A tag that would end a parameter, a value, an escape and the query, if it stood there as it is.
theorem awkward_tag_read_from_request :
    let registry : Target := ⟨"consul.local", 8500, "hello", by decide, by decide⟩
    let target : Target := ⟨"a", 80, "orders", by decide, by decide⟩
    let options : ClientOptions := ⟨.ofSecs 1000, 1, none⟩
    let query : HealthQuery := ⟨target.service, some "a&b=c +%2é#", false, 7⟩
    ∃ client request text,
      Client.create registry.registryAddress options (.ofSecs 10) = .ok client ∧
      (client.health .silent query).request = some request ∧
      request.url.query = some text ∧
      formRead? text.toList =
        some [("index", "7"), ("wait", "600s"), ("tag", "a&b=c +%2é#")] := by
  intro registry target options query
  let client : Client :=
    ⟨"consul.local:8500", "http://consul.local:8500", none, .ofSecs 600, .ofSecs 10⟩
  have created : Client.create registry.registryAddress options (.ofSecs 10) = .ok client := by
    decide +kernel
  have asked : (client.health .silent query).request.isSome = true := by
    decide +kernel
  obtain ⟨request, sent⟩ := Option.isSome_iff_exists.1 asked
  obtain ⟨_, _, _, text, written, _, read⟩ := query_read_from_request registry target options _
    client created _ query rfl request sent
  have form : queryForm options query =
      [("index", "7"), ("wait", "600s"), ("tag", "a&b=c +%2é#")] := by
    decide +kernel
  rw [form] at read
  exact ⟨client, request, text, created, sent, written, read⟩

end ServiceDiscovery.Consul
