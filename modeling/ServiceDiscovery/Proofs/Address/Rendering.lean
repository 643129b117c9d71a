import Mathlib.Data.List.Nodup
import ServiceDiscovery.Proofs.Registrar.Probe
import ServiceDiscovery.Proofs.Text.Separator

namespace ServiceDiscovery.NetworkAddress

open Registrar (bracketed authority_spelled)

-- The port is behind the last colon, wherever else there are colons.
theorem host_port_inj (a b : String) (m n : UInt16)
    (same : a ++ ":" ++ toString m.toNat = b ++ ":" ++ toString n.toNat) : a = b ∧ m = n := by
  have joined : a.toList ++ ':' :: (toString m.toNat).toList =
      b.toList ++ ':' :: (toString n.toNat).toList := by
    simpa [String.toList_append] using congrArg String.toList same
  have digits (port : UInt16) : ':' ∉ (toString port.toNat).toList :=
    Text.not_mem_decimal ':' port.toNat rfl
  obtain ⟨hosts, ports⟩ := Text.split_at_last ':' _ _ _ _ (digits m) (digits n) joined
  have values := Text.decimal_inj m.toNat n.toNat (String.toList_inj.1 ports)
  exact ⟨String.toList_inj.1 hosts, UInt16.toNat_inj.1 values⟩

theorem colon_in_bracketed (host : String) :
    ':' ∈ (bracketed host).toList ↔ ':' ∈ host.toList := by
  unfold bracketed
  split
  · rename_i literal
    simp [String.toList_append, literal]
  · exact Iff.rfl

-- A host that comes with brackets of its own either has no colon in them or gets another pair.
theorem bracketed_inj (a b : String) (same : bracketed a = bracketed b) : a = b := by
  have colons : ':' ∈ a.toList ↔ ':' ∈ b.toList := by
    rw [← colon_in_bracketed a, same, colon_in_bracketed b]
  by_cases literal : ':' ∈ a.toList
  · rw [bracketed, if_pos literal, bracketed, if_pos (colons.1 literal), String.append_left_inj,
      String.append_right_inj] at same
    exact same
  · rw [bracketed, if_neg literal, bracketed, if_neg (mt colons.2 literal)] at same
    exact same

theorem display_injective : Function.Injective display := by
  intro a b same
  cases a
  cases b
  obtain ⟨host, port⟩ := host_port_inj _ _ _ _ same
  rw [mk.injEq]
  exact ⟨host, port⟩

theorem http_uri_injective : Function.Injective httpUri := by
  intro a b same
  rw [httpUri, httpUri, String.append_right_inj, authority_spelled, authority_spelled] at same
  cases a
  cases b
  obtain ⟨hosts, port⟩ := host_port_inj _ _ _ _ same
  rw [mk.injEq]
  exact ⟨bracketed_inj _ _ hosts, port⟩

/-- Two addresses of which one text is the same, in a log or in a URI, have the same host and the
same port, whatever characters the hosts are made of. So the members of a snapshot have as many
different texts of either kind. -/
theorem addresses_told_apart :
    (∀ a b : NetworkAddress, a.display = b.display ∨ a.httpUri = b.httpUri →
      a.host = b.host ∧ a.port = b.port) ∧
    ∀ snapshot : AddressSet, (snapshot.toList.map display).Nodup ∧
      (snapshot.toList.map httpUri).Nodup := by
  refine ⟨?_, fun snapshot => ?_⟩
  · intro a b same
    have whole : a = b := same.elim (fun shown => display_injective shown) fun dialled =>
      http_uri_injective dialled
    exact ⟨congrArg host whole, congrArg port whole⟩
  · have distinct := snapshot.nodup_toList
    exact ⟨distinct.map display_injective, distinct.map http_uri_injective⟩

theorem awkward_hosts_told_apart :
    let literal : NetworkAddress := ⟨"::1", 80⟩
    let enclosed : NetworkAddress := ⟨"[::1]", 80⟩
    let longer : NetworkAddress := ⟨"::1:8", 0⟩
    let joined : NetworkAddress := ⟨"[" ++ literal.host ++ "]", 80⟩
    let snapshot := AddressSet.ofList [literal, enclosed, longer]
    (joined.httpUri = enclosed.httpUri ∧ joined.host = enclosed.host) ∧
      snapshot.size = 3 ∧ (snapshot.toList.map httpUri).Nodup := by
  intro literal enclosed longer joined snapshot
  obtain ⟨apart, distinct⟩ := addresses_told_apart
  have same : joined.httpUri = enclosed.httpUri := by decide
  exact ⟨⟨same, (apart joined enclosed (.inr same)).1⟩, by decide, (distinct snapshot).2⟩

end ServiceDiscovery.NetworkAddress
