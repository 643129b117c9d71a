import ServiceDiscovery.Proofs.Consul.Requests
import ServiceDiscovery.Proofs.Url.Endpoint
import ServiceDiscovery.Resolver

namespace ServiceDiscovery.Consul

open Http Text Url

def healthPath (target : Target) : List String := ["v1", "health", "service", target.service]

def pollUrl (target : Target) (host : String) (pairs : List (String × String)) : Url :=
  { endpoint host target.port (healthPath target) with query := some (.ofList (formPairs pairs)) }

theorem health_path_names (target : Target) : ∀ name ∈ healthPath target, isName name = true := by
  have fixed : ∀ name ∈ ["v1", "health", "service"], isName name = true := by decide
  intro name there
  rcases List.mem_append.1 (show name ∈ ["v1", "health", "service"] ++ [target.service] from there)
    with there | there
  · exact fixed name there
  · rw [List.mem_singleton.1 there]
    exact name_of_service target

theorem query_char_of_mark (c : Char) (mark : isFormMark c = true) :
    Uri.InQuery c := by
  refine forall_ascii (p := fun c => isFormMark c = true → Uri.isQueryChar c = true ∧ c ≠ '#') ?_ c
    (ascii_of_form_mark c mark) mark
  decide

theorem simple_poll_url (target : Target) (host : String) (pairs : List (String × String))
    (run : IsRun isHostChar host.toList) : IsSimple (pollUrl target host pairs) where
  insecure := rfl
  anonymous := rfl
  host := run
  path := fun name there => Uri.name_in_path name (health_path_names target name there)
  query := by
    intro query there c inside
    rw [pollUrl, Option.some.injEq] at there
    rw [← there, String.toList_ofList] at inside
    exact query_char_of_mark c (form_pairs_marks pairs c inside)

section

variable {target : Target} {client : Client}

theorem health_request_eq (base : client.baseUrl = "http://" ++ target.registryAddress)
    (legal : Client.legalToken client.token = true) (query : HealthQuery)
    (service : query.service = target.service) :
    client.healthRequest query =
      match host? target.host.toList with
      | none => .error Client.notBuilt
      | some host =>
        let url := pollUrl target host (client.healthPairs query)
        if Uri.maxBytes < url.text.utf8ByteSize then
          .error (Client.notBuilt ++ " for url (" ++ url.text ++ ")")
        else .ok ⟨.get, url, client.token, none, client.blockingTimeout⟩ := by
  have below : (client.baseUrl ++ "/v1/health/service/" ++ query.service).toList =
      "http://".toList ++ (target.registryAddress.toList ++ rooted (healthPath target)) := by
    rw [base, service, healthPath]
    simp [rooted]
  have parsed := parse_names target ["v1", "health", "service"] target.service
    (health_path_names target) _ below
  cases read : host? target.host.toList with
  | none =>
      rw [Client.healthRequest, Client.request, parsed, read]
      rfl
  | some host =>
      have uri := Uri.uri_of_simple (simple_poll_url target host (client.healthPairs query)
        (run_of_read target.host_run host read))
      have pairs : client.healthPairs query ≠ [] := by
        rw [Client.healthPairs]
        simp
      have goes : pollUrl target host (client.healthPairs query) =
          if client.healthPairs query = [] then
            (endpoint host target.port (healthPath target)).withoutCredentials
          else (endpoint host target.port (healthPath target)).withoutCredentials.withPairs
            (client.healthPairs query) := (if_neg pairs).symm
      rw [read, Option.map_some] at parsed
      rw [Client.healthRequest, request_of_url parsed legal goes, uri]
      by_cases long :
          Uri.maxBytes < (pollUrl target host (client.healthPairs query)).text.utf8ByteSize
      · simp only [if_pos long, Option.isNone_none, if_true]
      · simp only [if_neg long, Option.isNone_some, Bool.false_eq_true, if_false]

theorem health_request_iff (base : client.baseUrl = "http://" ++ target.registryAddress)
    (legal : Client.legalToken client.token = true) (query : HealthQuery)
    (service : query.service = target.service) (request : Request) :
    client.healthRequest query = .ok request ↔
      ∃ host, host? target.host.toList = some host ∧
        (pollUrl target host (client.healthPairs query)).text.utf8ByteSize ≤ Uri.maxBytes ∧
        request = ⟨.get, pollUrl target host (client.healthPairs query), client.token, none,
          client.blockingTimeout⟩ := by
  rw [health_request_eq base legal query service]
  cases host? target.host.toList with
  | none => simp
  | some host =>
      by_cases long :
          Uri.maxBytes < (pollUrl target host (client.healthPairs query)).text.utf8ByteSize
      · simp [long, Nat.not_le_of_lt long]
      · simp [long, Nat.le_of_not_lt long, eq_comm]

theorem client_of_target (builder : ResolverBuilder) (target : Target)
    (positive : builder.options.interval.isZero = false) :
    ∃ client, builder.client target = .ok client ∧
      client.baseUrl = "http://" ++ target.registryAddress ∧
      client.token = builder.options.authPass := by
  rw [ResolverBuilder.client, Client.create, if_neg (address_ne_empty target), positive]
  exact ⟨_, rfl, base_url_of_address target, rfl⟩

theorem poll_url_port (target : Target) (host : String) (pairs : List (String × String)) :
    (pollUrl target host pairs).port.getD 80 = target.port :=
  endpoint_port host target.port (healthPath target)

end

def GoesTo (request : Request) (target : Target) : Prop :=
  request.url.secure = false ∧ request.url.host = lower target.host ∧
    request.url.port.getD 80 = target.port

/-- A target is polled at the registry that it names just when its host stands for itself in a URL
and the URL is not too long. Any request goes to its port; the host of any other is the address
that the target's host is read as. -/
theorem polled_at_named_registry_iff (builder : ResolverBuilder)
    (positive : builder.options.interval.isZero = false)
    (legal : Client.legalToken builder.options.authPass = true) (raw : String) (target : Target) :
    builder.parseTarget raw = .ok target →
    ∃ client, builder.client target = .ok client ∧ ∀ (policy : RetryPolicy) (state : WatchState),
      let query := Watcher.query ⟨target, builder.watch, policy⟩ state
      let url := pollUrl target (lower target.host) (client.healthPairs query)
      ((∃ request, client.healthRequest query = .ok request ∧ GoesTo request target) ↔
        StandsForItself target.host ∧ url.text.utf8ByteSize ≤ Uri.maxBytes) ∧
      ∀ request, client.healthRequest query = .ok request →
        request.url.secure = false ∧ request.url.port.getD 80 = target.port ∧
        (request.url.host = lower target.host ∨
          endsInNumber (lower target.host).toList = true ∧
            ∃ n, ipv4? (lower target.host).toList = some n ∧ request.url.host = ipv4Text n) := by
  intro _
  obtain ⟨client, created, base, token⟩ := client_of_target builder target positive
  refine ⟨client, created, fun policy state => ?_⟩
  intro query url
  rw [← token] at legal
  have kept := host_kept_iff target.host_run
  have requested := health_request_iff base legal query rfl
  refine ⟨?_, ?_⟩
  · constructor
    · rintro ⟨request, asked, _, host, _⟩
      obtain ⟨other, read, short, rfl⟩ := (requested request).1 asked
      obtain rfl : other = lower target.host := host
      exact ⟨kept.1 read, short⟩
    · rintro ⟨stands, short⟩
      exact ⟨_, (requested _).2 ⟨_, kept.2 stands, short, rfl⟩, rfl, rfl, poll_url_port _ _ _⟩
  · intro request asked
    obtain ⟨other, read, _, rfl⟩ := (requested request).1 asked
    exact ⟨rfl, poll_url_port _ _ _, host_read_cases target.host_run other read⟩

-- A name as it is, one with a label that spells a Korean syllable, and an address.
theorem polled_by_name_and_by_address :
    let builder := ResolverBuilder.default
    let query := fun target => Watcher.query ⟨target, builder.watch, Backoff.fixed .zero⟩ .initial
    (∃ target client request,
      builder.parseTarget "consul://Registry.Local:80/orders" = .ok target ∧
      builder.client target = .ok client ∧ client.healthRequest (query target) = .ok request ∧
      GoesTo request target) ∧
    (∃ target client request,
      builder.parseTarget "consul://XN--6Q8B.example/orders" = .ok target ∧
      builder.client target = .ok client ∧ client.healthRequest (query target) = .ok request ∧
      GoesTo request target) ∧
    ∃ target client request,
      builder.parseTarget "10.0.0.7/orders" = .ok target ∧
      builder.client target = .ok client ∧ client.healthRequest (query target) = .ok request ∧
      GoesTo request target := by
  intro builder query
  have polled (raw : String) (target : Target) (parsed : builder.parseTarget raw = .ok target)
      (stands : StandsForItself target.host)
      (short : ∀ client, builder.client target = .ok client →
        (pollUrl target (lower target.host)
          (client.healthPairs (query target))).text.utf8ByteSize ≤ Uri.maxBytes) :
      ∃ target client request, builder.parseTarget raw = .ok target ∧
        builder.client target = .ok client ∧ client.healthRequest (query target) = .ok request ∧
        GoesTo request target := by
    obtain ⟨client, created, law⟩ :=
      polled_at_named_registry_iff builder (by decide) (by decide) raw target parsed
    obtain ⟨request, asked, goes⟩ := (law (Backoff.fixed .zero) .initial).1.2
      ⟨stands, short client created⟩
    exact ⟨target, client, request, parsed, created, asked, goes⟩
  refine ⟨?_, ?_, ?_⟩
  · have stands : StandsForItself "Registry.Local" :=
      stands_of_plain (by decide) (by decide) (by decide)
    refine polled _ ⟨"Registry.Local", 80, "orders", by decide, by decide⟩ (by decide +kernel)
      stands fun client created => ?_
    cases created
    decide +kernel
  · have spelled : Domain.IsSpelled (lower "XN--6Q8B.example") :=
      (Domain.spelled_iff _ (ascii_of_lower (by decide))).2 (by decide +kernel)
    have name : endsInNumber (lower "XN--6Q8B.example").toList = false := by decide +kernel
    have stands : StandsForItself "XN--6Q8B.example" :=
      ⟨spelled, fun number => by cases name.symm.trans number⟩
    refine polled _ ⟨"XN--6Q8B.example", 8500, "orders", by decide, by decide⟩
      (by decide +kernel) stands fun client created => ?_
    cases created
    decide +kernel
  · have spelled : Domain.IsSpelled (lower "10.0.0.7") := spelled_of_plain (by decide) (by decide)
    have stands : StandsForItself "10.0.0.7" := ⟨spelled, fun _ => ⟨10, 0, 0, 7, by decide⟩⟩
    refine polled _ ⟨"10.0.0.7", 8500, "orders", by decide, by decide⟩ (by decide +kernel)
      stands fun client created => ?_
    cases created
    decide +kernel

-- A host that only looks like a name is read as an address, or as none at all.
theorem polled_elsewhere_or_nowhere :
    let builder := ResolverBuilder.default
    let query := fun target policy state => Watcher.query ⟨target, builder.watch, policy⟩ state
    builder.options.interval.isZero = false ∧
    Client.legalToken builder.options.authPass = true ∧
    (∃ target client request,
      builder.parseTarget "1.2/orders" = .ok target ∧ builder.client target = .ok client ∧
      client.healthRequest (query target (Backoff.fixed .zero) .initial) = .ok request ∧
      target.host = "1.2" ∧ request.url.host = "1.0.0.2") ∧
    ∃ target client,
      builder.parseTarget "256.1.1.1/orders" = .ok target ∧ builder.client target = .ok client ∧
      ∀ policy state,
        client.healthRequest (query target policy state) = .error "builder error" := by
  intro builder query
  have created (target : Target) : ∃ client, builder.client target = .ok client ∧
      client.baseUrl = "http://" ++ target.registryAddress ∧
      Client.legalToken client.token = true := by
    obtain ⟨client, created, base, token⟩ := client_of_target builder target (by decide)
    exact ⟨client, created, base, by rw [token]; decide⟩
  refine ⟨by decide, by decide, ?_, ?_⟩
  · let target : Target := ⟨"1.2", 8500, "orders", by decide, by decide⟩
    have parsed : builder.parseTarget "1.2/orders" = .ok target := by decide +kernel
    have read : host? target.host.toList = some "1.0.0.2" := by decide +kernel
    obtain ⟨client, created, base, legal⟩ := created target
    have short : (pollUrl target "1.0.0.2" (client.healthPairs
        (query target (Backoff.fixed .zero) .initial))).text.utf8ByteSize ≤ Uri.maxBytes := by
      cases created
      decide +kernel
    exact ⟨target, client, _, parsed, created,
      (health_request_iff base legal _ rfl _).2 ⟨_, read, short, rfl⟩, rfl, rfl⟩
  · let target : Target := ⟨"256.1.1.1", 8500, "orders", by decide, by decide⟩
    have parsed : builder.parseTarget "256.1.1.1/orders" = .ok target := by decide +kernel
    have read : host? target.host.toList = none := by decide +kernel
    obtain ⟨client, created, base, legal⟩ := created target
    refine ⟨target, client, parsed, created, fun policy state => ?_⟩
    rw [health_request_eq base legal _ rfl, read]
    rfl

end ServiceDiscovery.Consul
