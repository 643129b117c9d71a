import Mathlib.Data.List.Forall2
import ServiceDiscovery.Proofs.Registrar.Directory
import ServiceDiscovery.Proofs.Watcher.Visibility

namespace ServiceDiscovery.Registrar

def Directory.found (directory : Directory) (query : HealthQuery) : List Registration :=
  directory.records.filter fun r => r.name = query.service ∧ ∀ tag ∈ query.tag, tag ∈ r.tags

-- An entry stands for a record; its node and its names are left open.
structure Shows (r : Registration) (entry : ServiceEntry) : Prop where
  address : entry.address = r.address
  port : entry.port = r.port
  status : entry.status = .passing

def Answers (directory : Directory) (query : HealthQuery) (response : HealthResponse) : Prop :=
  ∃ listed, listed.Perm (directory.found query) ∧ List.Forall₂ Shows listed response.entries

theorem exists_shown (listed : List Registration) (entries : List ServiceEntry)
    (seen : ServiceEntry → Prop) (meant : Registration → Prop)
    (shown : List.Forall₂ Shows listed entries)
    (agree : ∀ r ∈ listed, ∀ entry, Shows r entry → (seen entry ↔ meant r)) :
    (∃ entry ∈ entries, seen entry) ↔ ∃ r ∈ listed, meant r := by
  induction shown with
  | nil => simp
  | cons first _ ih =>
      obtain ⟨here, later⟩ := List.forall_mem_cons.1 agree
      rw [List.exists_mem_cons_iff, List.exists_mem_cons_iff, here _ first, ih later]

theorem places_shown (listed : List Registration) (entries : List ServiceEntry)
    (shown : List.Forall₂ Shows listed entries) :
    (entries.map fun entry => (entry.address, entry.port)) =
      listed.map fun r => (r.address, r.port) := by
  induction shown with
  | nil => rfl
  | cons first _ ih => rw [List.map_cons, List.map_cons, first.address, first.port, ih]

theorem shown_address (config : WatchConfig) (r : Registration) (entry : ServiceEntry)
    (shows : Shows r entry) (located : r.address ≠ "") (host : String) (port : UInt16) :
    WatchState.accepts config entry = true ∧ entry.networkAddress? = some ⟨host, port⟩ ↔
      r.address = host ∧ r.port = port := by
  have accepted : WatchState.accepts config entry = true := by
    simp [WatchState.accepts, ServiceEntry.healthy, shows.status]
  have address : entry.networkAddress? = some ⟨r.address, r.port⟩ := by
    simp [ServiceEntry.networkAddress?, shows.address, shows.port, located]
  simp [accepted, address]

section

variable {directory : Directory} {history : List Call} {r : Registration}

theorem listed_instance (legal : ∀ call ∈ history, call.Legal) (lists : Lists directory history)
    (here : r ∈ directory.records) :
    r.address ≠ "" ∧ r.name ∈ r.tags ∧
      r.id = r.name ++ "-" ++ r.address ++ "-" ++ toString r.port.toNat := by
  obtain ⟨kind, d, last, rfl⟩ := (lists r).1 here
  have valid := (last_on_legal history _ _ _ _ legal last).1.1
  exact ⟨(d.validate_ok_iff.1 valid).2, d.name_mem_registrationTags, rfl⟩

theorem mem_found (watcher : Watcher) (state : WatchState) (standard : watcher.config = .default)
    (legal : ∀ call ∈ history, call.Legal) (lists : Lists directory history) :
    r ∈ directory.found (watcher.query state) ↔
      r ∈ directory.records ∧ r.name = watcher.target.service := by
  have tagged : (watcher.query state).tag = some watcher.target.service := by
    rw [Watcher.query, standard]
    rfl
  simp only [Directory.found, List.mem_filter, tagged, Option.mem_some_iff, forall_eq',
    decide_eq_true_eq]
  refine and_congr_right fun here => ⟨And.left, fun name => ⟨name, ?_⟩⟩
  rw [← name]
  exact (listed_instance legal lists here).2.1

theorem places_found (watcher : Watcher) (state : WatchState) (standard : watcher.config = .default)
    (legal : ∀ call ∈ history, call.Legal) (lists : Lists directory history) :
    ((directory.found (watcher.query state)).map fun r => (r.address, r.port)).Nodup := by
  refine List.pairwise_map.2 ((directory.distinct.filter _).imp_of_mem ?_)
  intro a b first second distinct same
  obtain ⟨there, name⟩ := (mem_found watcher state standard legal lists).1 first
  obtain ⟨elsewhere, other⟩ := (mem_found watcher state standard legal lists).1 second
  obtain ⟨address, port⟩ := Prod.mk.inj same
  refine distinct ?_
  rw [(listed_instance legal lists there).2.2, (listed_instance legal lists elsewhere).2.2,
    name, other, address, port]

theorem mem_polled (watcher : Watcher) (state : WatchState) (response : HealthResponse)
    (standard : watcher.config = .default) (legal : ∀ call ∈ history, call.Legal)
    (lists : Lists directory history)
    (answers : Answers directory (watcher.query state) response) (host : String) (port : UInt16) :
    ⟨host, port⟩ ∈ WatchState.accepted watcher.config response.entries ↔
      ∃ r ∈ directory.records, r.name = watcher.target.service ∧
        r.address = host ∧ r.port = port := by
  obtain ⟨listed, order, shown⟩ := answers
  have agree : ∀ r ∈ listed, ∀ entry, Shows r entry →
      (WatchState.accepts watcher.config entry = true ∧
          entry.networkAddress? = some ⟨host, port⟩ ↔ r.address = host ∧ r.port = port) := by
    intro r inside entry shows
    have here := ((mem_found watcher state standard legal lists).1 (order.mem_iff.1 inside)).1
    exact shown_address watcher.config r entry shows (listed_instance legal lists here).1 host port
  rw [mem_accepted, exists_shown listed response.entries _ _ shown agree]
  simp only [order.mem_iff, mem_found watcher state standard legal lists, and_assoc]

end

/-- The addresses after one answered poll are the places of the instances of the service on which
the last call was a registration; each of them is listed once, and only its own deregistration
removes it. -/
theorem registered_instances_seen (watcher : Watcher) (registry : String) (history : List Call)
    (state : WatchState) (response : HealthResponse) (push : Option (Except Failure Unit))
    (standard : watcher.config = .default) (legal : ∀ call ∈ history, call.Legal)
    (answers : Answers (served registry history) (watcher.query state) response) :
    (∀ host port,
      ⟨host, port⟩ ∈ (watcher.poll state (some (.ok response)) push).state.addresses ↔
        ∃ d kind, lastOn? history d.name d.address d.port = some (.register kind d) ∧
          d.name = watcher.target.service ∧ d.address = host ∧ d.port = port) ∧
    (response.entries.map fun entry => (entry.address, entry.port)).Nodup ∧
    ∀ d : InstanceDescriptor, (Call.deregister d).Legal →
      ∀ r ∈ (served registry history).records,
        ¬ (r.name = d.name ∧ r.address = d.address ∧ r.port = d.port) →
        r ∈ (served registry (history ++ [.deregister d])).records := by
  have lists := lists_served registry history legal
  refine ⟨fun host port => ?_, ?_, ?_⟩
  · have polled : (watcher.poll state (some (.ok response)) push).state.addresses =
        WatchState.accepted watcher.config response.entries := by
      cases push <;> rfl
    rw [polled, mem_polled watcher state response standard legal lists answers]
    constructor
    · rintro ⟨r, here, name, address, port⟩
      obtain ⟨kind, d, last, rfl⟩ := (lists r).1 here
      exact ⟨d, kind, last, name, address, port⟩
    · rintro ⟨d, kind, last, name, address, port⟩
      exact ⟨d.registration kind, (lists _).2 ⟨kind, d, last, rfl⟩, name, address, port⟩
  · obtain ⟨listed, order, shown⟩ := answers
    rw [places_shown listed response.entries shown, (order.map _).nodup_iff]
    exact places_found watcher state standard legal lists
  · intro d allowed r here apart
    have later := lists_served registry (history ++ [.deregister d])
      (List.forall_mem_append.2 ⟨legal, by simpa using allowed⟩)
    refine (later r).2 ?_
    rw [last_on_append, if_neg fun concerned => apart
      ⟨concerned.1.symm, concerned.2.1.symm, concerned.2.2.symm⟩]
    exact (lists r).1 here

theorem registered_twice_seen_once :
    let watcher : Watcher :=
      ⟨⟨"localhost", 8500, "svc", by decide, by decide⟩, .default, Backoff.fixed .zero⟩
    let first : InstanceDescriptor := ⟨"svc", "a-8", 80, ["blue"], .zero⟩
    let second : InstanceDescriptor := ⟨"svc", "a", 80, [], .ofSecs 3⟩
    let history : List Call :=
      [.register .http first, .register .protocol second, .register .protocol first,
        .deregister second]
    let response : HealthResponse := ⟨[⟨"", "", "a-8", "10.0.0.1", 80, [], .passing⟩], 12⟩
    (∀ call ∈ history, call.Legal) ∧
    Answers (served "localhost:8500" history) (watcher.query .initial) response ∧
    ⟨"a-8", 80⟩ ∈ (watcher.poll .initial (some (.ok response)) none).state.addresses ∧
    ⟨"a", 80⟩ ∉ (watcher.poll .initial (some (.ok response)) none).state.addresses := by
  intro watcher first second history response
  have legal : ∀ call ∈ history, call.Legal := by
    have run : IsRun isServiceChar "svc".toList := by decide
    simp only [history, List.forall_mem_cons, Call.Legal, Call.descriptor,
      InstanceDescriptor.validate_ok_iff]
    exact ⟨⟨by decide, run⟩, ⟨by decide, run⟩, ⟨by decide, run⟩, ⟨by decide, run⟩, by simp⟩
  have answers : Answers (served "localhost:8500" history) (watcher.query .initial) response :=
    ⟨[first.registration .protocol], by decide, .cons ⟨rfl, rfl, rfl⟩ .nil⟩
  obtain ⟨seen, _, _⟩ := registered_instances_seen watcher "localhost:8500" history .initial
    response none rfl legal answers
  refine ⟨legal, answers, ?_, ?_⟩
  · exact (seen "a-8" 80).2 ⟨first, .protocol, by decide, rfl, rfl, rfl⟩
  · intro found
    obtain ⟨d, kind, last, name, address, port⟩ := (seen "a" 80).1 found
    rw [name, address, port] at last
    have removed : lastOn? history "svc" "a" 80 = some (.deregister second) := by decide
    cases removed.symm.trans last

end ServiceDiscovery.Registrar
