import Mathlib.Logic.Relation
import ServiceDiscovery.Proofs.Consul.Health
import ServiceDiscovery.Proofs.Consul.Registration
import ServiceDiscovery.Proofs.Json.Edits

namespace ServiceDiscovery.Consul

open Http Json

def nodeShape : Shape := ⟨["Address"], [("Address", .string "")]⟩

def checkShape : Shape := ⟨["Status"], []⟩

def serviceShape : Shape :=
  ⟨["ID", "Service", "Tags", "Address", "Port"],
    [("ID", .string ""), ("Service", .string ""), ("Tags", .null), ("Address", .string "")]⟩

def entryShape : Shape :=
  ⟨["Node", "Service", "Checks"], [("Node", .object []), ("Checks", .array [])]⟩

def untouched (_ : String) (_ _ : Json) : Prop := False

def tagsEdit : String → Json → Json → Prop
  | "Tags" => fun v w => v = .null ∧ w = .array []
  | _ => fun _ _ => False

def partEdit : String → Json → Json → Prop
  | "Node" => nodeShape.Edit untouched
  | "Service" => serviceShape.Edit tagsEdit
  | "Checks" => ItemEdit (checkShape.Edit untouched)
  | _ => fun _ _ => False

-- Bodies with any number of changes between them, made in either direction.
def Grown : Json → Json → Prop := Relation.EqvGen (ItemEdit (entryShape.Edit partEdit))

-- What an entry may not leave out: its service, the port of that, and the status of a check.
inductive Lacking (members : List (String × Json)) : Prop where
  | service (missing : ∀ v, ("Service", v) ∉ members)
  | port (service : List (String × Json)) (given : ("Service", .object service) ∈ members)
      (missing : ∀ n < 2 ^ 16, ("Port", .number n) ∉ service)
  | status (checks : List Json) (check : List (String × Json))
      (given : ("Checks", .array checks) ∈ members) (inside : .object check ∈ checks)
      (missing : ∀ s, ("Status", .string s) ∉ check)

theorem node_alike (j k : Json) (edit : nodeShape.Edit untouched j k) :
    nodeAddress? j = nodeAddress? k := by
  refine fields_alike edit _ fun f g shown => ?_
  exact defaulted_alike (.string "") (shown "Address" (by decide)) (by simp [nodeShape]) rfl
    fun _ _ => False.elim

theorem check_alike (j k : Json) (edit : checkShape.Edit untouched j k) :
    checkStatus? j = checkStatus? k := by
  refine fields_alike edit _ fun f g shown => ?_
  exact required_alike (shown "Status" (by decide)) (fun v => List.not_mem_nil)
    fun _ _ => False.elim

theorem tags_alike {f g : Fields Json}
    (shown : serviceShape.Shown tagsEdit "Tags" (f "Tags") (g "Tags")) :
    (f.defaulted "Tags" none (nullable? (list? text?))).map (·.getD []) =
      (g.defaulted "Tags" none (nullable? (list? text?))).map (·.getD []) := by
  unfold Fields.defaulted
  generalize f "Tags" = v, g "Tags" = w at shown ⊢
  cases shown with
  | same v => rfl
  | supplied v stands =>
      have null : v = .null := by simpa [serviceShape] using stands
      rw [null]
      rfl
  | changed v w edit =>
      obtain ⟨rfl, rfl⟩ := edit
      rfl

theorem service_alike (j k : Json) (edit : serviceShape.Edit tagsEdit j k) :
    servicePart? j = servicePart? k := by
  refine fields_alike edit _ fun f g shown => ?_
  have text (name : String) (known : name ∈ ["ID", "Service", "Address"]) :
      f.defaulted name "" text? = g.defaulted name "" text? := by
    simp only [List.mem_cons, List.not_mem_nil, or_false] at known
    rcases known with rfl | rfl | rfl
    all_goals
      exact defaulted_alike (.string "") (shown _ (by decide)) (by simp [serviceShape]) rfl
        fun _ _ => False.elim
  have port : f.required "Port" uint16? = g.required "Port" uint16? :=
    required_alike (shown _ (by decide)) (fun v => by simp [serviceShape])
      fun _ _ => False.elim
  have tags := tags_alike (shown "Tags" (by decide))
  simp only [text "ID" (by decide), text "Service" (by decide), text "Address" (by decide), port]
  cases first : f.defaulted "Tags" none (nullable? (list? text?)) with
  | none =>
      rw [first, Option.map_none, eq_comm, Option.map_eq_none_iff] at tags
      rw [tags]
  | some one =>
      rw [first, Option.map_some, eq_comm, Option.map_eq_some_iff] at tags
      obtain ⟨other, second, same⟩ := tags
      rw [second]
      dsimp only [Option.bind_eq_bind, Option.bind_some]
      rw [same]

theorem entry_alike (j k : Json) (edit : entryShape.Edit partEdit j k) :
    healthEntry? j = healthEntry? k := by
  refine fields_alike edit _ fun f g shown => ?_
  have node : f.defaulted "Node" "" nodeAddress? = g.defaulted "Node" "" nodeAddress? :=
    defaulted_alike (.object []) (shown _ (by decide)) (by simp [entryShape]) rfl node_alike
  have service : f.required "Service" servicePart? = g.required "Service" servicePart? :=
    required_alike (shown _ (by decide)) (fun v => by simp [entryShape]) service_alike
  have checks :
      f.defaulted "Checks" [] (list? checkStatus?) = g.defaulted "Checks" [] (list? checkStatus?) :=
    defaulted_alike (.array []) (shown _ (by decide)) (by simp [entryShape]) rfl
      fun v w edit => list_alike edit check_alike
  rw [node, service, checks]

theorem grown_alike (j k : Json) (grown : Grown j k) :
    j.list? healthEntry? = k.list? healthEntry? := by
  induction grown with
  | rel j k edit => exact list_alike edit entry_alike
  | refl j => rfl
  | symm j k _ ih => exact ih.symm
  | trans i j k _ _ first second => exact first.trans second

theorem related_of_mem {α β : Type} {r : α → β → Prop} {items : List α} {found : List β}
    (each : List.Forall₂ r items found) {item : α} (inside : item ∈ items) : ∃ a, r item a := by
  induction each with
  | nil => cases inside
  | cons first _ ih =>
      rcases List.mem_cons.1 inside with rfl | inside
      · exact ⟨_, first⟩
      · exact ih inside

theorem port_given (members : List (String × Json)) (part : ServicePart)
    (read : servicePart? (.object members) = some part) :
    ∃ n < 2 ^ 16, ("Port", .number n) ∈ members := by
  simp only [servicePart?, Option.bind_eq_bind, Option.bind_eq_some_iff] at read
  obtain ⟨fields, shown, _, _, _, _, _, _, _, _, port, read, _⟩ := read
  obtain ⟨v, found, read⟩ := required_given read
  have inside := (shows_of_read shown).given "Port" v found
  obtain ⟨n, read, _⟩ := Option.map_eq_some_iff.1 read
  cases v with
  | number m =>
      rw [below?] at read
      split at read
      · rename_i small
        exact ⟨m, small, inside⟩
      · cases read
  | _ => cases read

theorem status_given (members : List (String × Json)) (status : String)
    (read : checkStatus? (.object members) = some status) :
    ∃ s, ("Status", .string s) ∈ members := by
  simp only [checkStatus?, Option.bind_eq_bind, Option.bind_eq_some_iff] at read
  obtain ⟨fields, shown, read⟩ := read
  obtain ⟨v, found, read⟩ := required_given read
  have inside := (shows_of_read shown).given "Status" v found
  cases v with
  | string s => exact ⟨s, inside⟩
  | _ => cases read

theorem lacking_unread (members : List (String × Json)) (lacking : Lacking members)
    (e : HealthEntry) : healthEntry? (.object members) ≠ some e := by
  intro read
  simp only [ healthEntry?, Option.bind_eq_bind, Option.bind_eq_some_iff] at read
  obtain ⟨fields, shown, _, _, part, service, statuses, checks, _⟩ := read
  have shows := shows_of_read shown
  obtain ⟨v, found, read⟩ := required_given service
  cases lacking with
  | service missing => exact missing v (shows.given "Service" v found)
  | port service given missing =>
      rw [shows.shown "Service" (by decide) _ given] at found
      cases found
      obtain ⟨n, small, inside⟩ := port_given service part read
      exact missing n small inside
  | status list check given inside missing =>
      rw [Fields.defaulted, shows.shown "Checks" (by decide) _ given] at checks
      obtain ⟨items, same, each⟩ := (list?_eq_some _ _ _).1 checks
      cases same
      obtain ⟨status, read⟩ := related_of_mem each inside
      obtain ⟨s, stated⟩ := status_given check status read
      exact missing s stated

theorem read_health_alike (r : Response) (body other : List UInt8)
    (alike : healthEntries? body = healthEntries? other) :
    Client.readHealth { r with body := some body } =
      Client.readHealth { r with body := some other } := by
  have index (bytes : List UInt8) : ({ r with body := some bytes } : Response).headerText? =
      r.headerText? := rfl
  simp only [Client.readHealth, index, Option.bind_some, alike]

theorem read_health_lacking (r : Response) (body : List UInt8) (items : List Json)
    (members : List (String × Json)) (read : jsonOfBytes? body = some (.array items))
    (inside : .object members ∈ items) (lacking : Lacking members) :
    ∃ failure, Client.readHealth { r with body := some body } = .error failure ∧
      failure.code = .pollDecodeFailed := by
  by_cases some_index : ∃ index, Indexed { r with body := some body } index
  · obtain ⟨index, indexed⟩ := some_index
    have unlisted (entries : List ServiceEntry) :
        ¬ Listed { r with body := some body } entries := by
      rintro ⟨_, _, given, parsed, each⟩
      cases given
      cases read.symm.trans parsed
      obtain ⟨_, e, found, _⟩ := related_of_mem each inside
      exact lacking_unread members lacking e found
    obtain ⟨failure, failed, code, _⟩ := read_health_unlisted _ index indexed unlisted
    exact ⟨failure, failed, code⟩
  · obtain ⟨failure, failed, code, _⟩ := read_health_unindexed _ (not_exists.1 some_index)
    exact ⟨failure, failed, code⟩

/-- A body decodes to the same answer with any members added that this library does not know, at
any place in any object, with the members of any object in another order, and with those left out
or written out that may be missing. Whatever JSON text the changed value has, it is read. An entry
that lacks its service, a port or a status makes the whole body fail. -/
theorem health_decoding_tolerates_growth (r : Response) (body : List UInt8) (j : Json)
    (read : jsonOfBytes? body = some j) :
    (∀ grown bytes, Grown j grown → jsonOfBytes? bytes = some grown →
      Client.readHealth { r with body := some bytes } =
        Client.readHealth { r with body := some body }) ∧
    (∀ grown (text : String), Grown j grown → Spaced grown text.toList →
      Client.readHealth { r with body := some text.toUTF8.data.toList } =
        Client.readHealth { r with body := some body }) ∧
    ∀ items members, j = .array items → .object members ∈ items → Lacking members →
      ∃ failure, Client.readHealth { r with body := some body } = .error failure ∧
        failure.code = .pollDecodeFailed := by
  have same (grown : Json) (bytes : List UInt8) (changed : Grown j grown)
      (again : jsonOfBytes? bytes = some grown) :
      Client.readHealth { r with body := some bytes } =
        Client.readHealth { r with body := some body } := by
    refine read_health_alike r bytes body ?_
    rw [healthEntries?, healthEntries?, read, again]
    exact (grown_alike j grown changed).symm
  refine ⟨same, fun grown text changed spaced => ?_, fun items members array inside lacking => ?_⟩
  · refine same grown _ changed ?_
    rw [json_of_text]
    exact parse_spaced grown text spaced
  · exact read_health_lacking r body items members (array ▸ read) inside lacking

-- A service with only a port, the same with a list of no tags and a member in front that is not
-- known, and one whose port is too great.
theorem grown_body_decodes_alike :
    let response (j : Json) : Response :=
      ⟨200, [("X-Consul-Index", "7".toUTF8.data.toList)], some (bodyBytes j)⟩
    let j : Json := .array [.object [("Service", .object [("Port", .number 80)])]]
    let grown : Json := .array [.object [("Zone", .array [.null]),
      ("Service", .object [("Tags", .array []), ("Port", .number 80)])]]
    let lacking : Json := .array [.object [("Service", .object [("Port", .number 65536)])]]
    Client.readHealth (response j) = .ok ⟨[⟨"", "", "", "", 80, [], .passing⟩], 7⟩ ∧
    Client.readHealth (response grown) = Client.readHealth (response j) ∧
    ∃ failure, Client.readHealth (response lacking) = .error failure ∧
      failure.code = .pollDecodeFailed := by
  intro response j grown lacking
  have plain_entry (members : List (String × Json)) (plain : ∀ m ∈ members, Plain m.2) :
      Plain (.array [.object members]) := by
    simp [Plain.array, Plain.object members plain]
  have plain (n : Nat) : Plain (.array [.object [("Service", .object [("Port", .number n)])]]) :=
    plain_entry _ (by simp [Plain.object, Plain.number])
  have plain_grown : Plain grown :=
    plain_entry _ (by simp [Plain.object, Plain.array, Plain.number, Plain.null])
  refine ⟨by decide +kernel, ?_, ?_⟩
  · obtain ⟨_, written, _⟩ :=
      health_decoding_tolerates_growth (response j) _ j (json_of_body j (plain 80))
    refine written grown grown.text ?_ ?_
    · let untagged : Json := .object [("Service", .object [("Port", .number 80)])]
      let tagged : Json :=
        .object [("Service", .object [("Tags", .array []), ("Port", .number 80)])]
      let nulled : Json := .object [("Service", .object [("Tags", .null), ("Port", .number 80)])]
      have supplied : Grown (.array [untagged]) (.array [nulled]) :=
        .rel _ _ (.one [] [] _ _ (.inside [] [] "Service" _ _
          (.supply [] [("Port", .number 80)] "Tags" _ (by simp [serviceShape]) (by simp))))
      have emptied : Grown (.array [nulled]) (.array [tagged]) :=
        .rel _ _ (.one [] [] _ _ (.inside [] [] "Service" _ _
          (.inside [] [("Port", .number 80)] "Tags" _ _ ⟨rfl, rfl⟩)))
      have inserted : Grown (.array [tagged]) grown :=
        .rel _ _ (.one [] [] _ _ (.insert [] _ "Zone" _ (by decide)))
      exact .trans _ _ _ (.trans _ _ _ supplied emptied) inserted
    · rw [text, String.toList_ofList]
      exact spaced_of_written (plain_written grown plain_grown)
  · obtain ⟨_, _, fails⟩ :=
      health_decoding_tolerates_growth (response lacking) _ lacking (json_of_body lacking (plain _))
    refine fails _ _ rfl List.mem_cons_self (.port _ List.mem_cons_self fun n small inside => ?_)
    simp at inside
    omega

end ServiceDiscovery.Consul
