import ServiceDiscovery.Proofs.Consul.Writes

namespace ServiceDiscovery.Consul

open Http

inductive Call where
  | health (query : HealthQuery)
  | write (write : Registrar.Write)
  | operate (operation : Registrar.Operation)

inductive Reply where
  | listed (response : HealthResponse)
  | written (record : Option Registration)

def Outcome.map (f : α → β) (outcome : Outcome α) : Outcome β :=
  ⟨outcome.request, outcome.result.map f, outcome.logs⟩

def Client.call (client : Client) (tables : Tables) (exchange : Exchange) : Call → Outcome Reply
  | .health query => (client.health (.always exchange tables) query).map .listed
  | .write write => (client.write (.always exchange tables) write).map fun _ => .written none
  | .operate operation => (client.operate (.always exchange tables) operation).map .written

def Client.calls (client : Client) (tables : Tables) (script : List (Call × Exchange)) :
    List (Outcome Reply) :=
  script.map fun (call, exchange) => client.call tables exchange call

def Client.bearing (client : Client) (token : Option String) : Client := { client with token }

end ServiceDiscovery.Consul

namespace ServiceDiscovery.Http

def Request.bearing (request : Request) (token : Option String) : Request :=
  { request with token }

end ServiceDiscovery.Http

namespace ServiceDiscovery.Consul

open Http

def Outcome.bearing (outcome : Outcome α) (token : Option String) : Outcome α :=
  { outcome with request := outcome.request.map (·.bearing token) }

theorem map_bearing (outcome : Outcome α) (f : α → β) (token : Option String) :
    (outcome.bearing token).map f = (outcome.map f).bearing token := rfl

section

variable {client : Client} {token : Option String} {tables : Tables}

theorem create_bearing (address : String) (options : ClientOptions) (timeout : Duration)
    (token : Option String) :
    Client.create address { options with authPass := token } timeout =
      (Client.create address options timeout).map (·.bearing token) := by
  unfold Client.create
  by_cases empty : address = ""
  · rw [if_pos empty, if_pos empty]
    rfl
  · rw [if_neg empty, if_neg empty]
    dsimp only
    split <;> rfl

section

variable (alike : Client.legalToken token = Client.legalToken client.token)

include alike

theorem request_bearing (method : Method) (text : String) (pairs : List (String × String))
    (body : Option Json) (timeout : Duration) :
    (client.bearing token).request method text pairs body timeout =
      (client.request method text pairs body timeout).map (·.bearing token) := by
  by_cases legal : Client.legalToken client.token = true
  · cases parsed : Url.parse? text with
    | none => simp only [Client.request, parsed, Except.map]
    | some url =>
        obtain ⟨sent, goes⟩ : ∃ sent, sent = if pairs = [] then url.withoutCredentials
            else url.withoutCredentials.withPairs pairs := ⟨_, rfl⟩
        rw [request_of_url parsed legal goes, request_of_url parsed (alike.trans legal) goes]
        by_cases unsent : (Uri.parse? sent.text).isNone = true
        · rw [if_pos unsent, if_pos unsent]
          rfl
        · rw [if_neg unsent, if_neg unsent]
          rfl
  · rw [request_illegal (Bool.eq_false_iff.2 legal), request_illegal]
    · rfl
    · exact alike.trans (Bool.eq_false_iff.2 legal)

theorem health_request_bearing (query : HealthQuery) :
    (client.bearing token).healthRequest query =
      (client.healthRequest query).map (·.bearing token) :=
  request_bearing alike ..

theorem write_request_bearing (write : Registrar.Write) :
    writeRequest (client.bearing token) write =
      (writeRequest client write).map (·.bearing token) := by
  cases write with
  | register r =>
      rw [writeRequest, writeRequest, Client.registerRequest, Client.registerRequest]
      exact request_bearing alike ..
  | deregister id =>
      rw [writeRequest, writeRequest, Client.deregisterRequest, Client.deregisterRequest]
      exact request_bearing alike ..

end

-- What becomes of a request does not depend on its token, once it is known what comes back.
theorem send_bearing (exchange : Exchange) (built : Except String Request)
    (unanswered rejected : FailureCode) (reason action : String) :
    Client.send (.always exchange tables) (built.map (·.bearing token)) unanswered rejected reason
        action =
      let sent := Client.send (.always exchange tables) built unanswered rejected reason action
      (sent.1.map (·.bearing token), sent.2) := by
  cases built with
  | error cause => rfl
  | ok request =>
      cases exchange with
      | silence => rfl
      | response r => rfl

section

variable (alike : Client.legalToken token = Client.legalToken client.token)

include alike

theorem health_bearing (exchange : Exchange) (query : HealthQuery) :
    (client.bearing token).health (.always exchange tables) query =
      (client.health (.always exchange tables) query).bearing token := by
  simp only [Client.health, health_request_bearing alike, send_bearing, Outcome.bearing]

theorem write_bearing (exchange : Exchange) (write : Registrar.Write) :
    (client.bearing token).write (.always exchange tables) write =
      (client.write (.always exchange tables) write).bearing token := by
  have same := write_request_bearing alike write
  cases write with
  | register r =>
      rw [writeRequest, writeRequest] at same
      simp only [Client.write, Client.register, same, send_bearing, Outcome.bearing]
  | deregister id =>
      rw [writeRequest, writeRequest] at same
      simp only [Client.write, Client.deregister, same, send_bearing, Outcome.bearing]

theorem operate_bearing (exchange : Exchange) (operation : Registrar.Operation) :
    (client.bearing token).operate (.always exchange tables) operation =
      (client.operate (.always exchange tables) operation).bearing token := by
  simp only [Client.operate, write_bearing alike, Outcome.bearing, Option.map_bind]
  rfl

theorem call_bearing (exchange : Exchange) (call : Call) :
    (client.bearing token).call tables exchange call =
      (client.call tables exchange call).bearing token := by
  cases call with
  | health query => rw [Client.call, Client.call, health_bearing alike, map_bearing]
  | write write => rw [Client.call, Client.call, write_bearing alike, map_bearing]
  | operate operation => rw [Client.call, Client.call, operate_bearing alike, map_bearing]

theorem calls_bearing (script : List (Call × Exchange)) :
    (client.bearing token).calls tables script =
      (client.calls tables script).map (·.bearing token) := by
  rw [Client.calls, Client.calls, List.map_map]
  exact List.map_congr_left fun (call, exchange) _ => call_bearing alike exchange call

end

theorem token_of_request (client : Client) (script : List (Call × Exchange)) :
    ∀ outcome ∈ client.calls tables script, ∀ request ∈ outcome.request,
      request.token = client.token := by
  intro outcome inside request sent
  have own : (client.bearing client.token).calls tables script =
      (client.calls tables script).map (·.bearing client.token) := calls_bearing rfl script
  rw [Client.bearing] at own
  rw [own] at inside
  obtain ⟨other, _, rfl⟩ := List.mem_map.1 inside
  obtain ⟨unsigned, _, rfl⟩ := Option.map_eq_some_iff.1 sent
  rfl

theorem write_request_illegal (illegal : Client.legalToken client.token = false)
    (write : Registrar.Write) : writeRequest client write = .error Client.notBuilt := by
  cases write with
  | register r =>
      rw [writeRequest, Client.registerRequest]
      exact request_illegal illegal ..
  | deregister id =>
      rw [writeRequest, Client.deregisterRequest]
      exact request_illegal illegal ..

theorem unsent_illegal (illegal : Client.legalToken client.token = false)
    (script : List (Call × Exchange)) :
    ∀ outcome ∈ client.calls tables script, outcome.request = none := by
  have unwritten (exchange : Exchange) (write : Registrar.Write) :
      (client.write (.always exchange tables) write).request = none := by
    refine Option.eq_none_iff_forall_ne_some.2 fun request sent => ?_
    cases (write_request_illegal illegal write).symm.trans ((write_sent_iff request).1 sent)
  intro outcome inside
  obtain ⟨⟨call, exchange⟩, _, rfl⟩ := List.mem_map.1 inside
  cases call with
  | health query =>
      have unbuilt : client.healthRequest query = .error Client.notBuilt :=
        request_illegal illegal ..
      simp only [Client.call, Client.health, unbuilt, Client.send, Outcome.map]
  | write write => exact unwritten exchange write
  | operate operation =>
      simp only [Client.call, Client.operate, Outcome.map, unwritten, Option.bind_fun_none]

theorem unsigned_bearing (outcome : Outcome Reply) (token : Option String) :
    (outcome.bearing token).request.map (·.bearing none) =
      outcome.request.map (·.bearing none) := by
  rw [Outcome.bearing, Option.map_map]
  rfl

end

/-- Two clients that differ in their tokens alone, both legal or both illegal, are made alike, look
alike, and in any calls with the same responses end alike and log alike; their requests differ in
the token alone, which is the client's own. Without a token there is none in any request, and with
an illegal one there is no request. -/
theorem token_shows_in_header_only (address : String) (options : ClientOptions)
    (timeout : Duration) (tables : Tables) (script : List (Call × Exchange)) :
    let made (token : Option String) :=
      Client.create address { options with authPass := token } timeout
    (∀ first second : String,
      Client.legalToken (some first) = Client.legalToken (some second) →
      (∀ failure, made (some first) = .error failure ↔ made (some second) = .error failure) ∧
      ∀ a b, made (some first) = .ok a → made (some second) = .ok b →
        a.describe = b.describe ∧
        (a.calls tables script).map (·.result) = (b.calls tables script).map (·.result) ∧
        (a.calls tables script).map (·.logs) = (b.calls tables script).map (·.logs) ∧
        ((a.calls tables script).map fun outcome => outcome.request.map (·.bearing none)) =
          ((b.calls tables script).map fun outcome => outcome.request.map (·.bearing none)) ∧
        (∀ outcome ∈ a.calls tables script, ∀ request ∈ outcome.request,
          request.token = some first) ∧
        ∀ outcome ∈ b.calls tables script, ∀ request ∈ outcome.request,
          request.token = some second) ∧
    (∀ client, made none = .ok client →
      ∀ outcome ∈ client.calls tables script, ∀ request ∈ outcome.request, request.token = none) ∧
    ∀ token client, Client.legalToken (some token) = false → made (some token) = .ok client →
      ∀ outcome ∈ client.calls tables script, outcome.request = none := by
  intro made
  cases created : Client.create address options timeout with
  | error failure =>
      have failed (token : Option String) : made token = .error failure :=
        (create_bearing address options timeout token).trans (by rw [created, Except.map])
      refine ⟨fun first second _ => ⟨fun other => ?_, fun a b succeeded => ?_⟩,
        fun client succeeded => ?_, fun token client _ succeeded => ?_⟩
      · rw [failed, failed]
      · cases (failed _).symm.trans succeeded
      · cases (failed _).symm.trans succeeded
      · cases (failed _).symm.trans succeeded
  | ok client =>
      have signed (token : Option String) : made token = .ok (client.bearing token) :=
        (create_bearing address options timeout token).trans (by rw [created, Except.map])
      refine ⟨fun first second alike => ⟨fun failure => ?_, fun a b one other => ?_⟩,
        fun unsigned succeeded => ?_, fun token bearer illegal succeeded => ?_⟩
      · exact ⟨fun failed => (by cases (signed _).symm.trans failed),
          fun failed => (by cases (signed _).symm.trans failed)⟩
      · cases (signed _).symm.trans one
        cases (signed _).symm.trans other
        have same : ((client.bearing (some first)).bearing (some second)).calls tables script =
            ((client.bearing (some first)).calls tables script).map (·.bearing (some second)) :=
          calls_bearing alike.symm script
        have again : (client.bearing (some first)).bearing (some second) =
            client.bearing (some second) := rfl
        rw [again] at same
        refine ⟨rfl, ?_, ?_, ?_, token_of_request _ script, token_of_request _ script⟩
        · rw [same, List.map_map]
          rfl
        · rw [same, List.map_map]
          rfl
        · rw [same, List.map_map]
          exact List.map_congr_left fun outcome _ => (unsigned_bearing outcome _).symm
      · cases (signed _).symm.trans succeeded
        exact token_of_request _ script
      · cases (signed _).symm.trans succeeded
        exact unsent_illegal illegal script

-- A response may say what it likes of the token; a token with a line end is in no request.
theorem two_tokens_in_headers :
    let made (token : String) :=
      Client.create "localhost:8500" { ClientOptions.default with authPass := some token } .zero
    let bearer (token : String) : Client :=
      ⟨"localhost:8500", "http://localhost:8500", some token, .ofSecs 10, .zero⟩
    let tables : Tables := fun _ _ => []
    let script : List (Call × Exchange) :=
      [(.health { service := "web" }, .response ⟨403, [], some [97, 108, 112, 104, 97]⟩),
        (.operate (.register .http ⟨"web", "10.0.0.1", 80, [], .zero⟩), .silence),
        (.write (.deregister "web-10.0.0.1-80"), .response ⟨200, [], none⟩)]
    (∀ token, made token = .ok (bearer token)) ∧
      (bearer "alpha").describe = (bearer "beta").describe ∧
      ((bearer "alpha").calls tables script).map (·.result) =
        ((bearer "beta").calls tables script).map (·.result) ∧
      (∃ outcome ∈ (bearer "beta").calls tables script, ∃ request,
        outcome.request = some request ∧ request.token = some "beta") ∧
      ∀ outcome ∈ (bearer "alpha\n").calls tables script, outcome.request = none := by
  intro made bearer tables script
  have created (token : String) : made token = .ok (bearer token) := rfl
  obtain ⟨shared, _, unsent⟩ := token_shows_in_header_only "localhost:8500" .default .zero tables
    script
  obtain ⟨_, alike⟩ := shared "alpha" "beta" (by decide)
  obtain ⟨look, ends, _, _, _, own⟩ := alike _ _ (created "alpha") (created "beta")
  refine ⟨created, look, ends, ?_, unsent "alpha\n" _ (by decide) (created "alpha\n")⟩
  have buildable : ((bearer "beta").healthRequest { service := "web" }).isOk = true := by
    decide +kernel
  cases built : (bearer "beta").healthRequest { service := "web" } with
  | error cause =>
      rw [built] at buildable
      cases buildable
  | ok request =>
      have sent (exchange : Exchange) :
          ((bearer "beta").call tables exchange (.health { service := "web" })).request =
            some request := by
        simp only [Client.call, Client.health, built, Client.send, Outcome.map]
      exact ⟨_, List.mem_cons_self, request, sent _,
        own _ List.mem_cons_self request (sent _)⟩

end ServiceDiscovery.Consul
