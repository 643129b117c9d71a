import ServiceDiscovery.Consul.Writes
import ServiceDiscovery.Proofs.Consul.Addressing
import ServiceDiscovery.Proofs.Registrar.Contract

namespace ServiceDiscovery.Consul

open Http Registrar Url

def writeRequest (client : Consul.Client) : Write → Except String Request
  | .register r => client.registerRequest r
  | .deregister id => client.deregisterRequest id

section

variable {client : Consul.Client} {transport : Transport} {write : Write} {r : Response}

theorem write_sent_iff (request : Request) :
    (client.write transport write).request = some request ↔
      writeRequest client write = .ok request := by
  cases write with
  | register r => exact register_sent_iff client transport r request
  | deregister id => exact deregister_sent_iff client transport id request

-- Both kinds of writes are sent in the same way, and only in their words do they differ.
theorem result_write (client : Consul.Client) (transport : Transport) (write : Write) :
    ∃ reason action, (client.write transport write).result =
      (Client.send transport (writeRequest client write) .registrationFailed .registrationRejected
        reason action).2.map fun _ => () := by
  cases write with
  | register r =>
      refine ⟨"Failed to register service with Consul", "Consul service registration", ?_⟩
      rw [Client.write, Client.register, writeRequest]
  | deregister id =>
      refine ⟨"Failed to deregister service from Consul", "Consul service deregistration", ?_⟩
      rw [Client.write, Client.deregister, writeRequest]

theorem write_granted (answered : Answered transport (writeRequest client write) r)
    (granted : Granted r) : (client.write transport write).result = .ok () := by
  obtain ⟨reason, action, result⟩ := result_write client transport write
  rw [result, send_answered transport _ _ _ _ _ r answered, accepted_granted _ _ _ r granted]
  rfl

theorem write_rejected (answered : Answered transport (writeRequest client write) r)
    (denied : ¬ Granted r) :
    ∃ failure, (client.write transport write).result = .error failure ∧
      Rejection transport.tables .registrationRejected r failure := by
  obtain ⟨reason, action, result⟩ := result_write client transport write
  obtain ⟨failure, refused, rejection⟩ :=
    accepted_rejected transport.tables .registrationRejected action r denied
  rw [result, send_answered transport _ _ _ _ _ r answered, refused]
  exact ⟨failure, rfl, rejection⟩

theorem write_unanswered (silent : ∀ r, ¬ Answered transport (writeRequest client write) r) :
    ∃ failure cause, (client.write transport write).result = .error failure ∧
      failure.code = .registrationFailed ∧ failure.details = some cause := by
  obtain ⟨reason, action, result⟩ := result_write client transport write
  obtain ⟨cause, failed⟩ := send_unanswered transport (writeRequest client write)
    .registrationFailed .registrationRejected reason action silent
  rw [result, failed]
  exact ⟨_, cause, rfl, rfl, rfl⟩

end

def Bare : Operation → Prop
  | .register _ d => d.name = "" ∨ d.address = ""
  | .deregister _ => False

def operationRequest (client : Consul.Client) : Operation → Except String Request
  | .register kind d => client.registerRequest (d.registration kind)
  | .deregister id => client.deregisterRequest id

def operationPath : Operation → String
  | .register _ _ => "/v1/agent/service/register"
  | .deregister id => "/v1/agent/service/deregister/" ++ id

def operationBody : Operation → Option Json
  | .register kind d => some (Client.registrationJson (d.registration kind))
  | .deregister _ => none

-- What the URL of an operation's request names: an id that can be named is one segment of it.
def Names (url : Url) : Operation → Prop
  | .register _ _ => url.pathText = "/v1/agent/service/register" ∧ url.query = none ∧
      url.fragment = none
  | .deregister id => Nameable id → url.query = none ∧ url.fragment = none ∧
      ∃ segment, url.pathText = "/v1/agent/service/deregister/" ++ segment ∧
        '/' ∉ segment.toList ∧ decoded? segment.toList = some id

theorem operation_request_parts {client : Consul.Client} {operation : Operation} {request : Request}
    (built : operationRequest client operation = .ok request) :
    Client.legalToken client.token = true ∧ request.method = .put ∧
      request.token = client.token ∧ request.body = operationBody operation := by
  cases operation with
  | register kind d =>
      rw [operationRequest, Client.registerRequest] at built
      exact ⟨legal_of_built built, request_parts built⟩
  | deregister id =>
      rw [operationRequest, Client.deregisterRequest] at built
      exact ⟨legal_of_built built, request_parts built⟩

theorem operation_request_iff {target : Target} {client : Consul.Client}
    (base : client.baseUrl = "http://" ++ target.registryAddress)
    (legal : Client.legalToken client.token = true) (stands : StandsForItself target.host)
    (operation : Operation) :
    ∃ url, Url.parse? (client.baseUrl ++ operationPath operation) = some url ∧
      AtRegistry target url ∧ Names url operation ∧
      ∀ request, operationRequest client operation = .ok request ↔
        url.text.utf8ByteSize ≤ Uri.maxBytes ∧
          request = ⟨.put, url, client.token, operationBody operation, client.requestTimeout⟩ := by
  cases operation with
  | register kind d =>
      obtain ⟨url, parsed, place, path, query, fragment, built⟩ :=
        register_request_iff base legal stands (d.registration kind)
      exact ⟨url, parsed, place, ⟨path, query, fragment⟩, built⟩
  | deregister id =>
      obtain ⟨url, parsed, place, named, built⟩ := deregister_request_iff base legal stands id
      rw [String.append_assoc] at parsed
      exact ⟨url, parsed, place, named, built⟩

section

variable {client : Consul.Client} {transport : Transport} {operation : Operation} {r : Response}

theorem operate_bare (bare : Bare operation) :
    (client.operate transport operation).request = none ∧
      ∃ failure, (client.operate transport operation).result = .error failure ∧
        failure.code = .invalidRegistration := by
  have unwritten : written? operation = none := by
    cases operation with
    | register kind d => exact if_pos bare
    | deregister id => exact bare.elim
  obtain ⟨failure, refused, code⟩ := run_unwritten client.address
    (fun write => (client.write transport write).result) unwritten
  rw [Client.operate, refused]
  exact ⟨rfl, failure, rfl, code⟩

theorem operate_write (client : Consul.Client) (transport : Transport)
    (spoken : ¬ Bare operation) :
    ∃ write, writeRequest client write = operationRequest client operation ∧
      (client.operate transport operation).request = (client.write transport write).request ∧
      (client.operate transport operation).result =
        (client.write transport write).result.map fun _ => record? operation := by
  have some_write : ∃ write, written? operation = some write ∧
      writeRequest client write = operationRequest client operation := by
    cases operation with
    | register kind d => exact ⟨.register (d.registration kind), if_neg spoken, rfl⟩
    | deregister id => exact ⟨.deregister id, rfl, rfl⟩
  obtain ⟨write, written, same⟩ := some_write
  obtain ⟨passed, result⟩ := run_written client.address
    (fun write => (client.write transport write).result) written
  refine ⟨write, same, ?_, result⟩
  rw [Client.operate, passed]
  rfl

theorem operate_sent_iff (spoken : ¬ Bare operation) (request : Request) :
    (client.operate transport operation).request = some request ↔
      operationRequest client operation = .ok request := by
  obtain ⟨write, same, sent, _⟩ := operate_write client transport spoken
  rw [sent, ← same]
  exact write_sent_iff request

theorem operate_granted (spoken : ¬ Bare operation)
    (answered : Answered transport (operationRequest client operation) r) (granted : Granted r) :
    (client.operate transport operation).result = .ok (record? operation) := by
  obtain ⟨write, same, _, result⟩ := operate_write client transport spoken
  rw [← same] at answered
  rw [result, write_granted answered granted]
  rfl

theorem operate_rejected (spoken : ¬ Bare operation)
    (answered : Answered transport (operationRequest client operation) r)
    (denied : ¬ Granted r) :
    ∃ failure, (client.operate transport operation).result = .error failure ∧
      Rejection transport.tables .registrationRejected r failure := by
  obtain ⟨write, same, _, result⟩ := operate_write client transport spoken
  rw [← same] at answered
  obtain ⟨failure, refused, rejection⟩ := write_rejected answered denied
  rw [result, refused]
  exact ⟨failure, rfl, rejection⟩

theorem operate_unanswered (spoken : ¬ Bare operation)
    (silent : ∀ r, ¬ Answered transport (operationRequest client operation) r) :
    ∃ failure cause, (client.operate transport operation).result = .error failure ∧
      failure.code = .registrationFailed ∧ failure.details = some cause := by
  obtain ⟨write, same, _, result⟩ := operate_write client transport spoken
  rw [← same] at silent
  obtain ⟨failure, cause, failed, about⟩ := write_unanswered silent
  rw [result, failed]
  exact ⟨failure, cause, rfl, about⟩

theorem operate_cases (client : Consul.Client) (transport : Transport)
    (spoken : ¬ Bare operation) :
    (∃ r, Answered transport (operationRequest client operation) r ∧ Granted r ∧
      (client.operate transport operation).result = .ok (record? operation)) ∨
    (∃ r failure, Answered transport (operationRequest client operation) r ∧ ¬ Granted r ∧
      (client.operate transport operation).result = .error failure ∧
      failure.code = .registrationRejected) ∨
    ((∀ r, ¬ Answered transport (operationRequest client operation) r) ∧
      ∃ failure, (client.operate transport operation).result = .error failure ∧
        failure.code = .registrationFailed) := by
  by_cases some_answer : ∃ r, Answered transport (operationRequest client operation) r
  · obtain ⟨r, answered⟩ := some_answer
    by_cases granted : Granted r
    · exact .inl ⟨r, answered, granted, operate_granted spoken answered granted⟩
    · obtain ⟨failure, refused, rejection⟩ := operate_rejected spoken answered granted
      exact .inr (.inl ⟨r, failure, answered, granted, refused, rejection.code⟩)
  · have silent := not_exists.1 some_answer
    obtain ⟨failure, cause, failed, code, _⟩ := operate_unanswered spoken silent
    exact .inr (.inr ⟨silent, failure, failed, code⟩)

theorem operate_succeeds_iff (spoken : ¬ Bare operation) :
    (∃ record, (client.operate transport operation).result = .ok record) ↔
      ∃ r, Answered transport (operationRequest client operation) r ∧ Granted r := by
  constructor
  · rintro ⟨record, succeeded⟩
    rcases operate_cases client transport spoken with ⟨r, came, granted, _⟩ |
      ⟨_, _, _, _, failed, _⟩ | ⟨_, _, failed, _⟩
    · exact ⟨r, came, granted⟩
    · cases succeeded.symm.trans failed
    · cases succeeded.symm.trans failed
  · rintro ⟨r, came, granted⟩
    exact ⟨_, operate_granted spoken came granted⟩

theorem operate_fails (spoken : ¬ Bare operation) {failure : Failure}
    (failed : (client.operate transport operation).result = .error failure) :
    failure.code.category = .registration ∧
      (failure.code = .registrationRejected ↔
        ∃ r, Answered transport (operationRequest client operation) r ∧ ¬ Granted r) ∧
      (failure.code = .registrationFailed ↔
        ∀ r, ¬ Answered transport (operationRequest client operation) r) := by
  rcases operate_cases client transport spoken with ⟨_, _, _, same⟩ |
    ⟨r, _, came, denied, same, code⟩ | ⟨silent, _, same, code⟩
  · cases failed.symm.trans same
  · cases failed.symm.trans same
    rw [code]
    exact ⟨rfl, ⟨fun _ => ⟨r, came, denied⟩, fun _ => rfl⟩,
      ⟨fun same => (by cases same), fun silent => absurd came (silent r)⟩⟩
  · cases failed.symm.trans same
    rw [code]
    exact ⟨rfl, ⟨fun same => (by cases same), fun ⟨r, came, _⟩ => absurd came (silent r)⟩,
      ⟨fun _ => silent, fun _ => rfl⟩⟩

end

theorem retryable_of_registration (code : FailureCode)
    (registration : code.category = .registration) :
    code.retryable = true ↔ code = .registrationFailed := by
  cases code <;> first | decide | simp [FailureCode.category, FailureCode.number] at registration

/-- A registration without a name or an address is refused and sends nothing. Any other operation
sends its request, if there is one, and ends by the status of the response alone: granted, rejected
with what the response says, or failed where none came. Only this last is worth a retry. At the
registry that a target names there is a request unless its URL is too long or the token illegal. -/
theorem outcome_of_operation (client : Consul.Client) (transport : Transport)
    (operation : Operation) :
    let outcome := client.operate transport operation
    let built := operationRequest client operation
    let answered := Answered transport built
    (Bare operation → outcome.request = none ∧
      ∃ failure, outcome.result = .error failure ∧ failure.code = .invalidRegistration) ∧
    (¬ Bare operation →
      (∀ request, outcome.request = some request ↔ built = .ok request) ∧
      ((∃ record, outcome.result = .ok record) ↔ ∃ r, answered r ∧ Granted r) ∧
      (∀ r, answered r → ¬ Granted r →
        ∃ failure, outcome.result = .error failure ∧ failure.code = .registrationRejected ∧
          failure.param? "status" = some (toString r.status) ∧
          (∃ text, failure.details = some text ∧
            ∀ other, BodyText transport.tables r other ↔ other = text) ∧
          (r.body = none → failure.details = some "")) ∧
      ((∀ r, ¬ answered r) →
        ∃ failure cause, outcome.result = .error failure ∧
          failure.code = .registrationFailed ∧ failure.details = some cause) ∧
      ∀ failure, outcome.result = .error failure →
        (failure.code = .registrationRejected ↔ ∃ r, answered r ∧ ¬ Granted r) ∧
        (failure.code = .registrationFailed ↔ ∀ r, ¬ answered r)) ∧
    (∀ failure, outcome.result = .error failure →
      failure.code.category = .registration ∧
      (failure.code.retryable = true ↔ failure.code = .registrationFailed) ∧
      (failure.code.retryable = true ↔ ¬ Bare operation ∧ ∀ r, ¬ answered r)) ∧
    (∀ request, built = .ok request →
      Client.legalToken client.token = true ∧ request.method = .put ∧
      request.token = client.token ∧ request.body = operationBody operation) ∧
    ∀ target options timeout,
      Client.create target.registryAddress options timeout = .ok client →
      Client.legalToken client.token = true → StandsForItself target.host →
      ∃ url, Url.parse? (client.baseUrl ++ operationPath operation) = some url ∧
        AtRegistry target url ∧ Names url operation ∧
        ∀ request, built = .ok request ↔
          url.text.utf8ByteSize ≤ Uri.maxBytes ∧
            request =
              ⟨.put, url, client.token, operationBody operation, client.requestTimeout⟩ := by
  intro outcome built answered
  refine ⟨operate_bare, fun spoken => ⟨operate_sent_iff spoken, operate_succeeds_iff spoken, ?_,
    operate_unanswered spoken, fun failure failed => (operate_fails spoken failed).2⟩, ?_,
    fun request => operation_request_parts, fun target options timeout created legal stands =>
      operation_request_iff (base_url_of_target created) legal stands operation⟩
  · intro r came denied
    obtain ⟨failure, failed, rejection⟩ := operate_rejected spoken came denied
    exact ⟨failure, failed, rejection.code, rejection.status, rejection.details,
      rejection.unreadable⟩
  · intro failure failed
    by_cases bare : Bare operation
    · obtain ⟨_, other, refused, code⟩ : outcome.request = none ∧
          ∃ other, outcome.result = .error other ∧ other.code = .invalidRegistration :=
        operate_bare bare
      cases failed.symm.trans refused
      rw [code]
      exact ⟨rfl, by decide, by simp [FailureCode.retryable, bare]⟩
    · obtain ⟨category, _, unsent⟩ := operate_fails bare failed
      have retryable := retryable_of_registration failure.code category
      exact ⟨category, retryable, retryable.trans (unsent.trans (and_iff_right bare).symm)⟩

-- An instance that is put at a registry and taken away, a rejection whose body is cut within a
-- character, and a silence after which the same call may be made again.
theorem operations_end_by_status :
    let d : InstanceDescriptor := ⟨"svc", "10.0.0.1", 80, [], .zero⟩
    let gbk : Tables := fun name bytes =>
      if name = "gbk" ∧ bytes = [0xB7, 0xFE] then ['服'] else []
    let put : Operation := .register .http d
    let take : Operation := .deregister "svc-10.0.0.1-80"
    let outcome (exchange : Exchange) (operation : Operation) :=
      localClient.operate (.always exchange gbk) operation
    let rejected (r : Response) (operation : Operation) (details : String) :=
      ∃ failure, (outcome (.response r) operation).result = .error failure ∧
        failure.code = .registrationRejected ∧
        failure.param? "status" = some (toString r.status) ∧ failure.details = some details
    (∃ failure, (outcome .silence (.register .http { d with name := "" })).result = .error failure ∧
      failure.code = .invalidRegistration) ∧
    (∃ request, (outcome (.response ⟨204, [], none⟩) take).request = some request ∧
      request.method = .put ∧ request.url.text =
        "http://consul.local:8500/v1/agent/service/deregister/svc-10.0.0.1-80") ∧
    (∃ record, (outcome (.response ⟨204, [], none⟩) take).result = .ok record) ∧
    (∃ record, (outcome (.response ⟨200, [], some []⟩) put).result = .ok record) ∧
    rejected ⟨503, [], none⟩ put "" ∧
    rejected ⟨404, [], some [0x61, 0xE6, 0x9C, 0x61]⟩ take "a\ufffda" ∧
    rejected ⟨403, [("content-type", "text/plain;charset=gb2312".toUTF8.data.toList)],
      some [0xB7, 0xFE]⟩ put "服" ∧
    ∃ failure, (outcome .silence take).result = .error failure ∧
      failure.code = .registrationFailed ∧ failure.code.retryable = true := by
  intro d gbk put take outcome rejected
  have law (exchange : Exchange) := outcome_of_operation localClient (.always exchange gbk)
  have stands : StandsForItself localTarget.host :=
    stands_of_plain (by decide) (by decide) (by decide)
  have built (operation : Operation) (url : Url)
      (parsed : Url.parse? (localClient.baseUrl ++ operationPath operation) = some url)
      (short : url.text.utf8ByteSize ≤ Uri.maxBytes) :
      ∃ request, operationRequest localClient operation = .ok request ∧ request.url = url := by
    obtain ⟨_, _, _, _, reached⟩ := law .silence operation
    obtain ⟨other, same, _, _, built⟩ :=
      reached localTarget _ _ local_created (by decide) stands
    cases parsed.symm.trans same
    exact ⟨_, (built _).2 ⟨short, rfl⟩, rfl⟩
  have putting : ∃ request, operationRequest localClient put = .ok request := by
    obtain ⟨request, asked, _⟩ := built put
      ⟨false, none, "consul.local", some 8500, ["v1", "agent", "service", "register"], none, none⟩
      (by decide +kernel) (by decide +kernel)
    exact ⟨request, asked⟩
  obtain ⟨taking, asked, url⟩ := built take
    ⟨false, none, "consul.local", some 8500,
      ["v1", "agent", "service", "deregister", "svc-10.0.0.1-80"], none, none⟩
    (by decide +kernel) (by decide +kernel)
  have spoken : ¬ Bare put := not_or.2 ⟨by decide, by decide⟩
  have granted (operation : Operation) (spoken : ¬ Bare operation)
      (asked : ∃ request, operationRequest localClient operation = .ok request) (r : Response)
      (granted : Granted r) : ∃ record, (outcome (.response r) operation).result = .ok record := by
    obtain ⟨request, asked⟩ := asked
    obtain ⟨_, ended, _⟩ := law (.response r) operation
    exact (ended spoken).2.1.2 ⟨r, ⟨request, asked, rfl⟩, granted⟩
  have denied (operation : Operation) (spoken : ¬ Bare operation)
      (asked : ∃ request, operationRequest localClient operation = .ok request) (r : Response)
      (denied : ¬ Granted r) (text : String) (decoded : r.bodyText gbk = text) :
      rejected r operation text := by
    obtain ⟨request, asked⟩ := asked
    obtain ⟨_, ended, _⟩ := law (.response r) operation
    obtain ⟨_, _, refused, _⟩ := ended spoken
    obtain ⟨failure, failed, code, status, ⟨other, said, only⟩, _⟩ :=
      refused r ⟨request, asked, rfl⟩ denied
    cases (only text).1 ((body_text_iff gbk r text).2 decoded)
    exact ⟨failure, failed, code, status, said⟩
  refine ⟨?_, ?_, ?_, ?_, ?_, ?_, ?_, ?_⟩
  · obtain ⟨refused, _⟩ := law .silence (.register .http { d with name := "" })
    exact (refused (.inl rfl)).2
  · obtain ⟨_, ended, _, parts, _⟩ := law (.response ⟨204, [], none⟩) take
    obtain ⟨_, method, _⟩ := parts taking asked
    refine ⟨taking, ((ended id).1 taking).2 asked, method, ?_⟩
    rw [url]
    decide +kernel
  · exact granted take id ⟨taking, asked⟩ _ ⟨by decide, by decide⟩
  · exact granted put spoken putting _ ⟨by decide, by decide⟩
  · exact denied put spoken putting _ (fun granted => absurd granted.2 (by decide)) _ rfl
  · exact denied take id ⟨taking, asked⟩ _ (fun granted => absurd granted.2 (by decide)) _
      (by decide +kernel)
  · exact denied put spoken putting _ (fun granted => absurd granted.2 (by decide)) _
      (by decide +kernel)
  · obtain ⟨_, ended, about, _⟩ := law .silence take
    obtain ⟨_, _, _, unsent, _⟩ := ended id
    obtain ⟨failure, _, failed, code, _⟩ := unsent fun r ⟨_, _, came⟩ => by cases came
    exact ⟨failure, failed, code, (about failure failed).2.1.2 code⟩

end ServiceDiscovery.Consul
