import ServiceDiscovery.Consul.HealthBody
import ServiceDiscovery.Watcher

namespace ServiceDiscovery

open Consul

theorem mem_accepted (config : WatchConfig) (entries : List ServiceEntry)
    (address : NetworkAddress) :
    address ∈ WatchState.accepted config entries ↔
      ∃ entry ∈ entries, WatchState.accepts config entry = true ∧
        entry.networkAddress? = some address := by
  simp only [WatchState.accepted, AddressSet.mem_ofList, List.mem_filterMap, List.mem_filter,
    and_assoc]

def WatchConfig.tolerance (config : WatchConfig) : Nat := if config.passingOnly then 0 else 1

theorem accepts_iff (config : WatchConfig) (entry : ServiceEntry) :
    WatchState.accepts config entry = true ↔ entry.status.severity ≤ config.tolerance := by
  unfold WatchState.accepts ServiceEntry.healthy WatchConfig.tolerance
  cases config.passingOnly <;> cases entry.status <;> decide

def WatchConfig.Admits (config : WatchConfig) (status : String) : Prop :=
  status = "passing" ∨ config.passingOnly = false ∧ status = "warning"

theorem severity_ofWire (status : String) :
    (CheckStatus.ofWire status).severity =
      if status = "passing" then 0
      else if status = "warning" then 1
      else if status = "maintenance" then 3
      else 2 := by
  by_cases passing : status = "passing"
  · subst passing
    rfl
  by_cases warning : status = "warning"
  · subst warning
    rfl
  by_cases maintenance : status = "maintenance"
  · subst maintenance
    rfl
  by_cases critical : status = "critical"
  · subst critical
    rfl
  have unknown : CheckStatus.ofName? status = none := by
    simp [CheckStatus.ofName?, CheckStatus.all, CheckStatus.name, Ne.symm passing,
      Ne.symm warning, Ne.symm maintenance, Ne.symm critical]
  simp [CheckStatus.ofWire, unknown, passing, warning, maintenance, CheckStatus.severity]

theorem admits_iff (config : WatchConfig) (status : String) :
    config.Admits status ↔ (CheckStatus.ofWire status).severity ≤ config.tolerance := by
  rw [severity_ofWire, WatchConfig.Admits, WatchConfig.tolerance]
  cases config.passingOnly <;> grind

theorem severity_entry_le (e : HealthEntry) (n : Nat) :
    e.entry.status.severity ≤ n ↔
      ∀ status ∈ e.checks, (CheckStatus.ofWire status).severity ≤ n := by
  unfold HealthEntry.entry
  cases e.checks with
  | nil => simp [CheckStatus.worst?, CheckStatus.severity]
  | cons first rest =>
      simp only [List.map_cons, CheckStatus.worst?, Option.getD_some,
        CheckStatus.severity_foldl_worse_le, List.forall_mem_map, List.forall_mem_cons]

theorem accepts_entry (config : WatchConfig) (e : HealthEntry) :
    WatchState.accepts config e.entry = true ↔ ∀ status ∈ e.checks, config.Admits status := by
  simp only [accepts_iff, severity_entry_le, admits_iff]

theorem network_address_entry (e : HealthEntry) (host : String) (port : UInt16) :
    e.entry.networkAddress? = some ⟨host, port⟩ ↔
      e.service.port = port ∧ host ≠ "" ∧
        host = if e.service.address = "" then e.node else e.service.address := by
  have unfolded : e.entry.networkAddress? =
      if (if e.service.address = "" then e.node else e.service.address) = "" then none
      else some ⟨if e.service.address = "" then e.node else e.service.address, e.service.port⟩ :=
    rfl
  rw [unfolded]
  generalize (if e.service.address = "" then e.node else e.service.address) = found
  by_cases none : found = ""
  · subst none
    simp +contextual
  · rw [if_neg none, Option.some.injEq, NetworkAddress.mk.injEq]
    grind

theorem mem_accepted_entry (config : WatchConfig) (decoded : List HealthEntry) (host : String)
    (port : UInt16) :
    ⟨host, port⟩ ∈ WatchState.accepted config (decoded.map HealthEntry.entry) ↔
      ∃ e ∈ decoded, e.service.port = port ∧ host ≠ "" ∧
        host = (if e.service.address = "" then e.node else e.service.address) ∧
        ∀ status ∈ e.checks, config.Admits status := by
  rw [mem_accepted]
  constructor
  · rintro ⟨entry, listed, accepted, reached⟩
    obtain ⟨e, here, rfl⟩ := List.mem_map.1 listed
    obtain ⟨at_port, given, found⟩ := (network_address_entry e host port).1 reached
    exact ⟨e, here, at_port, given, found, (accepts_entry config e).1 accepted⟩
  · rintro ⟨e, here, at_port, given, found, fit⟩
    exact ⟨e.entry, List.mem_map_of_mem here, (accepts_entry config e).2 fit,
      (network_address_entry e host port).2 ⟨at_port, given, found⟩⟩

-- Two entries that differ at most in the order and the number of their checks.
def Consul.HealthEntry.Alike (e f : HealthEntry) : Prop :=
  e.node = f.node ∧ e.service = f.service ∧ ∀ status, status ∈ e.checks ↔ status ∈ f.checks

-- The entries of one list are alike to those of the other, in any order and number.
def Restated (decoded others : List HealthEntry) : Prop :=
  (∀ e ∈ decoded, ∃ f ∈ others, e.Alike f) ∧ ∀ f ∈ others, ∃ e ∈ decoded, e.Alike f

theorem accepted_restated (config : WatchConfig) (decoded others : List HealthEntry)
    (restated : Restated decoded others) :
    WatchState.accepted config (others.map HealthEntry.entry) =
      WatchState.accepted config (decoded.map HealthEntry.entry) := by
  refine AddressSet.ext_mem fun ⟨host, port⟩ => ?_
  rw [mem_accepted_entry, mem_accepted_entry]
  constructor
  · rintro ⟨f, there, at_port, given, found, fit⟩
    obtain ⟨e, here, node, service, checks⟩ := restated.2 f there
    refine ⟨e, here, ?_, given, ?_, fun status listed => fit status ((checks status).1 listed)⟩
    · rw [service, at_port]
    · rw [service, node, found]
  · rintro ⟨e, here, at_port, given, found, fit⟩
    obtain ⟨f, there, node, service, checks⟩ := restated.1 e here
    refine ⟨f, there, ?_, given, ?_, fun status listed => fit status ((checks status).2 listed)⟩
    · rw [← service, at_port]
    · rw [← service, ← node, found]

/-- Whatever was known before, the addresses are those of the instances that have one and of which
every check says what is admitted. -/
theorem visible_addresses (config : WatchConfig) (known : WatchState) (decoded : List HealthEntry)
    (index : UInt64) :
    let seen := (known.apply config ⟨decoded.map HealthEntry.entry, index⟩).addresses
    (∀ host port, ⟨host, port⟩ ∈ seen ↔
      ∃ e ∈ decoded, e.service.port = port ∧ host ≠ "" ∧
        host = (if e.service.address = "" then e.node else e.service.address) ∧
        ∀ status ∈ e.checks,
          status = "passing" ∨ config.passingOnly = false ∧ status = "warning") ∧
    seen.toList.Pairwise (fun a b => a.host < b.host ∨ a.host = b.host ∧ a.port < b.port) ∧
    seen.toList.Nodup ∧
    ∀ (others : List HealthEntry) (before : WatchState) (number : UInt64),
      Restated decoded others →
      (before.apply config ⟨others.map HealthEntry.entry, number⟩).addresses = seen := by
  intro seen
  refine ⟨mem_accepted_entry config decoded, seen.ascending, seen.nodup_toList, ?_⟩
  intro others before number restated
  exact accepted_restated config decoded others restated

theorem visible_in_any_order :
    let config : WatchConfig := { WatchConfig.default with passingOnly := false }
    let plain : HealthEntry :=
      ⟨"10.0.0.1", ⟨"a", "svc", [], "", 80⟩, ["passing", "warning"]⟩
    let hidden : HealthEntry :=
      ⟨"10.0.0.1", ⟨"b", "svc", [], "10.0.0.2", 81⟩, ["passing", "unknown"]⟩
    let turned : HealthEntry := { plain with checks := ["warning", "passing", "warning"] }
    let seen (decoded : List HealthEntry) : AddressSet :=
      (WatchState.initial.apply config ⟨decoded.map HealthEntry.entry, 7⟩).addresses
    Restated [plain, hidden] [hidden, turned, hidden] ∧
      seen [hidden, turned, hidden] = seen [plain, hidden] ∧
      ⟨"10.0.0.1", 80⟩ ∈ seen [plain, hidden] ∧ ⟨"10.0.0.2", 81⟩ ∉ seen [plain, hidden] := by
  intro config plain hidden turned seen
  have turnedAlike : plain.Alike turned := ⟨rfl, rfl, by simp [plain, turned]⟩
  have hiddenAlike : hidden.Alike hidden := ⟨rfl, rfl, fun _ => Iff.rfl⟩
  have restated : Restated [plain, hidden] [hidden, turned, hidden] := by
    refine ⟨fun e listed => ?_, fun f listed => ?_⟩
    · simp only [List.mem_cons, List.not_mem_nil, or_false] at listed
      rcases listed with rfl | rfl
      · exact ⟨turned, by simp, turnedAlike⟩
      · exact ⟨hidden, by simp, hiddenAlike⟩
    · simp only [List.mem_cons, List.not_mem_nil, or_false] at listed
      rcases listed with rfl | rfl | rfl
      · exact ⟨hidden, by simp, hiddenAlike⟩
      · exact ⟨plain, by simp, turnedAlike⟩
      · exact ⟨hidden, by simp, hiddenAlike⟩
  obtain ⟨mem, _, _, same⟩ := visible_addresses config .initial [plain, hidden] 7
  refine ⟨restated, same [hidden, turned, hidden] .initial 7 restated, ?_, ?_⟩
  · exact (mem "10.0.0.1" 80).2 ⟨plain, by simp, rfl, by decide, rfl, by decide⟩
  · intro found
    obtain ⟨e, listed, at_port, _, _, fit⟩ := (mem "10.0.0.2" 81).1 found
    simp only [List.mem_cons, List.not_mem_nil, or_false] at listed
    rcases listed with rfl | rfl
    · exact absurd at_port (by decide)
    · exact absurd (fit "unknown" (by simp [hidden])) (by decide)

end ServiceDiscovery
