import ServiceDiscovery.Proofs.Consul.Exchange
import ServiceDiscovery.Proofs.Http.Uri

namespace ServiceDiscovery.Consul

open Http Url

section

variable {target : Target} {client : Client}

theorem base_url_of_address (target : Target) :
    Client.baseUrlOf target.registryAddress = "http://" ++ target.registryAddress := by
  have slashless := foreign_to_address target '/' (by decide)
  have trimmed :
      Client.trimSlashes target.registryAddress.toList = target.registryAddress.toList := by
    rw [Client.trimSlashes, drop_while_of_head, List.reverse_reverse]
    intro c mem
    rw [beq_eq_false_iff_ne]
    rintro rfl
    exact slashless (List.mem_reverse.1 (List.mem_of_mem_head? mem))
  have schemeless (scheme : String) (slash : '/' ∈ scheme.toList) :
      ¬ scheme.toList.isPrefixOf target.registryAddress.toList = true := fun starts =>
    slashless ((List.isPrefixOf_iff_prefix.1 starts).subset slash)
  rw [Client.baseUrlOf, trimmed, String.ofList_toList, if_neg]
  exact not_or.2 ⟨schemeless "http://" (by decide), schemeless "https://" (by decide)⟩

theorem client_of_created {address : String} {options : ClientOptions} {timeout : Duration}
    (created : Client.create address options timeout = .ok client) :
    client = ⟨address, Client.baseUrlOf address, options.authPass,
      options.interval.shorter maxWaitTime, timeout⟩ := by
  unfold Client.create at created
  split at created
  · cases created
  · split at created
    · cases created
    · exact (Except.ok.inj created).symm

theorem base_url_of_target {options : ClientOptions} {timeout : Duration}
    (created : Client.create target.registryAddress options timeout = .ok client) :
    client.baseUrl = "http://" ++ target.registryAddress := by
  rw [← base_url_of_address, client_of_created created]

theorem request_illegal (illegal : Client.legalToken client.token = false) (method : Method)
    (text : String) (pairs : List (String × String)) (body : Option Json) (timeout : Duration) :
    client.request method text pairs body timeout = .error Client.notBuilt := by
  unfold Client.request
  split
  · rfl
  · rw [if_pos (by simp [illegal])]

theorem legal_of_built {method : Method} {text : String} {pairs : List (String × String)}
    {body : Option Json} {timeout : Duration} {request : Request}
    (built : client.request method text pairs body timeout = .ok request) :
    Client.legalToken client.token = true := by
  cases legal : Client.legalToken client.token with
  | true => rfl
  | false =>
      rw [request_illegal legal] at built
      cases built

theorem request_built {method : Method} {text : String} {pairs : List (String × String)}
    {body : Option Json} {timeout : Duration} {request : Request}
    (built : client.request method text pairs body timeout = .ok request) :
    ∃ url, Url.parse? text = some url ∧ request.body = body ∧ request.timeout = timeout ∧
      request.url = if pairs = [] then url.withoutCredentials
        else url.withoutCredentials.withPairs pairs := by
  unfold Client.request at built
  split at built
  · cases built
  · rename_i url parsed
    split at built
    · cases built
    · refine ⟨url, parsed, ?_⟩
      dsimp only at built
      generalize (if pairs = [] then url.withoutCredentials
        else url.withoutCredentials.withPairs pairs) = sent at built ⊢
      split at built
      · cases built
      · cases built
        exact ⟨rfl, rfl, rfl⟩

theorem request_of_url {method : Method} {text : String} {pairs : List (String × String)}
    {body : Option Json} {timeout : Duration} {url sent : Url}
    (parsed : Url.parse? text = some url) (legal : Client.legalToken client.token = true)
    (goes : sent = if pairs = [] then url.withoutCredentials
      else url.withoutCredentials.withPairs pairs) :
    client.request method text pairs body timeout =
      if (Uri.parse? sent.text).isNone then
        .error (Client.notBuilt ++ " for url (" ++ sent.text ++ ")")
      else .ok { method, url := sent, token := client.token, body, timeout } := by
  subst goes
  simp only [Client.request, parsed, legal, not_true_eq_false, if_false]

theorem request_parts {method : Method} {text : String} {pairs : List (String × String)}
    {body : Option Json} {timeout : Duration} {request : Request}
    (built : client.request method text pairs body timeout = .ok request) :
    request.method = method ∧ request.token = client.token ∧ request.body = body := by
  obtain ⟨url, parsed, _⟩ := request_built built
  obtain ⟨sent, goes⟩ : ∃ sent, sent = if pairs = [] then url.withoutCredentials
      else url.withoutCredentials.withPairs pairs := ⟨_, rfl⟩
  rw [request_of_url parsed (legal_of_built built) goes] at built
  split at built
  · cases built
  · cases built
    exact ⟨rfl, rfl, rfl⟩

theorem request_iff {method : Method} {text : String} {pairs : List (String × String)}
    {body : Option Json} {timeout : Duration} {url sent : Url}
    (parsed : Url.parse? text = some url) (legal : Client.legalToken client.token = true)
    (goes : sent = if pairs = [] then url.withoutCredentials
      else url.withoutCredentials.withPairs pairs)
    (simple : IsSimple sent) (request : Request) :
    client.request method text pairs body timeout = .ok request ↔
      sent.text.utf8ByteSize ≤ Uri.maxBytes ∧
        request = ⟨method, sent, client.token, body, timeout⟩ := by
  rw [request_of_url parsed legal goes, Uri.uri_of_simple simple]
  by_cases long : Uri.maxBytes < sent.text.utf8ByteSize
  · simp [long, Nat.not_le_of_lt long]
  · simp [long, Nat.le_of_not_lt long, eq_comm]

theorem sent_iff (transport : Transport) (built : Except String Request)
    (unanswered rejected : FailureCode) (reason action : String) (request : Request) :
    (Client.send transport built unanswered rejected reason action).1 = some request ↔
      built = .ok request := by
  cases built with
  | error cause => simp [Client.send]
  | ok other => simp [Client.send]

theorem health_sent_iff (client : Client) (transport : Transport) (query : HealthQuery)
    (request : Request) :
    (client.health transport query).request = some request ↔
      client.healthRequest query = .ok request := by
  unfold Client.health
  generalize client.healthRequest query = built
  exact sent_iff transport built _ _ _ _ request

theorem deregister_sent_iff (client : Client) (transport : Transport) (id : String)
    (request : Request) :
    (client.deregister transport id).request = some request ↔
      client.deregisterRequest id = .ok request := by
  unfold Client.deregister
  generalize client.deregisterRequest id = built
  exact sent_iff transport built _ _ _ _ request

theorem register_sent_iff (client : Client) (transport : Transport) (r : Registration)
    (request : Request) :
    (client.register transport r).request = some request ↔
      client.registerRequest r = .ok request := by
  unfold Client.register
  generalize client.registerRequest r = built
  exact sent_iff transport built _ _ _ _ request

end

end ServiceDiscovery.Consul
