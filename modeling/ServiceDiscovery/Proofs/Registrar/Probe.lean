import ServiceDiscovery.Address
import ServiceDiscovery.Registrar

namespace ServiceDiscovery.Registrar

-- Where clients dial an instance, spelled as a check of a kind has it.
def dialled (d : InstanceDescriptor) : CheckKind → String
  | .http => (NetworkAddress.mk d.address d.port).httpUri
  | .protocol => (NetworkAddress.mk d.address d.port).authority ++ "/" ++ d.name

def bracketed (host : String) : String :=
  if ':' ∈ host.toList then "[" ++ host ++ "]" else host

theorem bracketed_eq_iff (host : String) : host = bracketed host ↔ ':' ∉ host.toList := by
  unfold bracketed
  split
  · rename_i literal
    refine iff_of_false (fun same => ?_) (not_not_intro literal)
    have lengths := congrArg String.length same
    simp only [String.length_append] at lengths
    have bracket : "[".length = 1 := rfl
    omega
  · rename_i plain
    exact iff_of_true rfl plain

theorem authority_spelled (address : NetworkAddress) :
    address.authority = bracketed address.host ++ ":" ++ toString address.port.toNat := by
  unfold NetworkAddress.authority bracketed
  split
  · have closed : "]:" = "]" ++ ":" := rfl
    rw [closed, ← String.append_assoc]
  · rfl

def beforeHost : CheckKind → String
  | .http => "http://"
  | .protocol => ""

def afterHost (d : InstanceDescriptor) : CheckKind → String
  | .http => ":" ++ toString d.port.toNat
  | .protocol => ":" ++ toString d.port.toNat ++ "/" ++ d.name

section

variable (d : InstanceDescriptor) (kind : CheckKind)

theorem target_spelled :
    (d.check kind).target = beforeHost kind ++ d.address ++ afterHost d kind := by
  cases kind <;> simp only [InstanceDescriptor.check, HealthCheck.http, HealthCheck.protocol,
    beforeHost, afterHost, String.append_assoc, String.empty_append]

theorem dialled_spelled :
    dialled d kind = beforeHost kind ++ bracketed d.address ++ afterHost d kind := by
  cases kind <;> simp only [dialled, NetworkAddress.httpUri, authority_spelled, beforeHost,
    afterHost, String.append_assoc, String.empty_append]

theorem target_eq_dialled_iff :
    (d.check kind).target = dialled d kind ↔ ':' ∉ d.address.toList := by
  rw [target_spelled, dialled_spelled, String.append_left_inj, String.append_right_inj,
    bracketed_eq_iff]

end

/-- An instance that passes validation is registered with a check. It looks where clients dial the
instance just when the address holds no colon. Any other address is dialled in brackets and probed
without them, with everything around it the same. -/
theorem probed_where_dialled (registry : String) (answer : Write → Except Failure Unit)
    (kind : CheckKind) (d : InstanceDescriptor) (valid : d.validate = .ok ()) :
    ∃ r, (run registry answer (.register kind d)).write = some (.register r) ∧
      (run registry answer (.register kind d)).result =
        (answer (.register r)).map (fun _ => some r) ∧
      (r.check.target = dialled d kind ↔ ':' ∉ d.address.toList) ∧
      ∃ front back, r.check.target = front ++ d.address ++ back ∧
        dialled d kind = front ++ bracketed d.address ++ back := by
  refine ⟨d.registration kind, ?_, ?_, target_eq_dialled_iff d kind, beforeHost kind,
    afterHost d kind, target_spelled d kind, dialled_spelled d kind⟩
  · simp only [run, valid]
  · simp only [run, valid]

theorem named_hosts_probed_where_dialled :
    let d : InstanceDescriptor := ⟨"web", "host-1.local", 8080, [], .zero⟩
    d.validate = .ok () ∧ ∀ kind, ∃ r,
      (run "localhost:8500" (fun _ => .ok ()) (.register kind d)).write = some (.register r) ∧
        r.check.target = dialled d kind := by
  intro d
  refine ⟨rfl, fun kind => ?_⟩
  obtain ⟨r, written, _, same, _⟩ :=
    probed_where_dialled "localhost:8500" (fun _ => .ok ()) kind d rfl
  exact ⟨r, written, same.2 (by decide)⟩

theorem literal_probed_elsewhere :
    let d : InstanceDescriptor := ⟨"web", "::1", 8080, [], .zero⟩
    d.validate = .ok () ∧ ∀ kind, ∃ r,
      (run "localhost:8500" (fun _ => .ok ()) (.register kind d)).write = some (.register r) ∧
        r.check.target = (if kind = .http then "http://::1:8080" else "::1:8080/web") ∧
        dialled d kind = if kind = .http then "http://[::1]:8080" else "[::1]:8080/web" := by
  intro d
  refine ⟨rfl, fun kind => ⟨d.registration kind, rfl, ?_⟩⟩
  cases kind <;> decide

end ServiceDiscovery.Registrar
