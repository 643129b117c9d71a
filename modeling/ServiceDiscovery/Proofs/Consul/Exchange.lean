import ServiceDiscovery.Consul
import ServiceDiscovery.Proofs.Http.BodyText

namespace ServiceDiscovery.Consul

open Http

def Transport.always (exchange : Exchange) (tables : Tables) : Transport :=
  ⟨fun _ => exchange, tables⟩

def Transport.silent : Transport := .always .silence fun _ _ => []

def Answered (transport : Transport) (built : Except String Request) (r : Response) : Prop :=
  ∃ request, built = .ok request ∧ transport request = .response r

def Granted (r : Response) : Prop := 200 ≤ r.status ∧ r.status < 300

theorem granted_iff (r : Response) : r.successful = true ↔ Granted r := by
  simp [Response.successful, Granted]

-- What is known of the failure for a response that does not grant the request.
structure Rejection (tables : Tables) (code : FailureCode) (r : Response) (failure : Failure) :
    Prop where
  code : failure.code = code
  status : failure.param? "status" = some (toString r.status)
  details : ∃ text, failure.details = some text ∧ ∀ other, BodyText tables r other ↔ other = text

theorem Rejection.unreadable {tables : Tables} {code : FailureCode} {r : Response}
    {failure : Failure} (rejection : Rejection tables code r failure) (none_read : r.body = none) :
    failure.details = some "" := by
  obtain ⟨text, details, only⟩ := rejection.details
  rw [details, (only "").1 (.inl ⟨none_read, rfl⟩)]

theorem send_answered (transport : Transport) (built : Except String Request)
    (unanswered rejected : FailureCode) (reason action : String) (r : Response)
    (answered : Answered transport built r) :
    (Client.send transport built unanswered rejected reason action).2 =
      Client.accepted transport.tables rejected action r := by
  obtain ⟨request, same, came⟩ := answered
  simp only [Client.send, same, came]

theorem accepted_granted (tables : Tables) (rejected : FailureCode) (action : String)
    (r : Response) (granted : Granted r) : Client.accepted tables rejected action r = .ok r := by
  rw [Client.accepted, if_pos ((granted_iff r).2 granted)]

theorem accepted_rejected (tables : Tables) (rejected : FailureCode) (action : String)
    (r : Response) (denied : ¬ Granted r) :
    ∃ failure, Client.accepted tables rejected action r = .error failure ∧
      Rejection tables rejected r failure := by
  rw [Client.accepted, if_neg fun successful => denied ((granted_iff r).1 successful)]
  exact ⟨_, rfl, rfl, rfl, _, rfl, fun other => (body_text_iff tables r other).trans eq_comm⟩

theorem send_unanswered (transport : Transport) (built : Except String Request)
    (unanswered rejected : FailureCode) (reason action : String)
    (silent : ∀ r, ¬ Answered transport built r) :
    ∃ cause, (Client.send transport built unanswered rejected reason action).2 =
      .error (.ofCause unanswered reason cause) := by
  cases same : built with
  | error cause => exact ⟨cause, rfl⟩
  | ok request =>
      cases came : transport.exchange request with
      | silence => exact ⟨Client.notSent request, by simp only [Client.send, came]⟩
      | response r => exact absurd ⟨request, same, came⟩ (silent r)

end ServiceDiscovery.Consul
