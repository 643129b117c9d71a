import ServiceDiscovery.Proofs.Consul.Requests
import ServiceDiscovery.Proofs.Url.Endpoint

namespace ServiceDiscovery.Consul

open Http Url

def removalEndpoint : List String := ["v1", "agent", "service", "deregister"]

def writtenId? (request : Request) : Option String :=
  match request.body with
  | some (.object members) => (members.lookup "ID").bind Json.text?
  | _ => none

-- A request for removal names the instance that another request writes: one segment of its path
-- stands for the id, and nothing follows the path.
def SameInstance (removing writing : Request) : Prop :=
  removing.url.query = none ∧
    ∃ segment id, removing.url.pathText = "/v1/agent/service/deregister/" ++ segment ∧
      '/' ∉ segment.toList ∧ Url.decoded? segment.toList = some id ∧
      writtenId? writing = some id

-- Whether an id can stand in a path as it is: no character ends a segment or the path or is
-- skipped, and no percent sign starts an escape.
def fitsSegment (id : String) : Bool :=
  id.toList.all (fun c => !"/\\?#\t\n\r".toList.contains c) && !hasEscape id.toList

theorem fits_segment_iff (id : String) :
    fitsSegment id = true ↔
      (beforeQuery id.toList = id.toList ∧ ∀ c ∈ id.toList, isSlash c = false) ∧
        hasEscape id.toList = false := by
  rw [fitsSegment, Bool.and_eq_true, Bool.not_eq_true', before_query_eq_iff, List.all_eq_true,
    ← forall_and]
  refine and_congr_left' (forall_congr' fun c => ?_)
  rw [← imp_and]
  refine imp_congr_right fun _ => ?_
  grind [isSlash]

def removalUrl (target : Target) (host : String) (id : List Char) : Url :=
  { endpoint host target.port
      (segments removalEndpoint (splitOnChar '/' (flat (beforeQuery id)))) with
    query := (cut '?' (beforeFragment id)).2.map fun q => .ofList (encodeChars escapesQuery q)
    fragment := (cut '#' (kept id)).2.map fun f => .ofList (encodeChars escapesFragment f) }

theorem parse_removal (target : Target) (id : String)
    (visible : ∀ c ∈ ('/' :: id.toList).getLast?, 0x20 < c.toNat) :
    Url.parse? ("http://" ++ target.registryAddress ++ "/v1/agent/service/deregister/" ++ id) =
      (host? target.host.toList).map fun host => removalUrl target host id.toList :=
  parse_below target removalEndpoint (by decide) _ id.toList (by simp [removalEndpoint, rooted])
    visible

theorem removal_segment {id : String} {url : Url}
    (path : url.path = segments removalEndpoint (splitOnChar '/' (flat (beforeQuery id.toList))))
    (fits : fitsSegment id = true) (single : isDot id.toList = false)
    (double : isDoubleDot id.toList = false) :
    ∃ segment, url.pathText = "/v1/agent/service/deregister/" ++ segment ∧
      '/' ∉ segment.toList ∧ Url.decoded? segment.toList = some id := by
  obtain ⟨⟨read, plain⟩, unescaped⟩ := (fits_segment_iff id).1 fits
  obtain ⟨front, part, split, _, _, whole⟩ := split_flat_last id.toList
  obtain ⟨rfl, rfl⟩ := whole plain
  rw [read, split, List.nil_append, segments_single _ _ single double] at path
  have spelled := path_text_last url _ _ path
  have segment := String.toList_ofList (l := encodeChars escapesPath id.toList)
  refine ⟨.ofList (encodeChars escapesPath id.toList), ?_, ?_, ?_⟩
  · rw [← String.toList_inj, spelled, String.toList_append, segment]
    rfl
  · rw [segment]
    exact not_slash_in_encoded id.toList plain
  · rw [segment]
    exact (decoded_part_iff keeps_escapes_path (List.Sublist.refl _)).2 ⟨rfl, unescaped⟩

section

variable {target : Target} {options : ClientOptions} {timeout : Duration} {client : Client}
variable {id : String} {removing writing : Request}

section

variable (created : Client.create target.registryAddress options timeout = .ok client)
variable (visible : ∀ c ∈ ('/' :: id.toList).getLast?, 0x20 < c.toNat)
variable (built : client.deregisterRequest id = .ok removing)

include created visible built

theorem removal_url : ∃ host, removing.url = removalUrl target host id.toList := by
  obtain ⟨url, parsed, _, _, same⟩ := request_built built
  rw [base_url_of_target created, parse_removal target id visible, Option.map_eq_some_iff] at parsed
  obtain ⟨host, _, rfl⟩ := parsed
  exact ⟨host, same⟩

theorem removal_query : removing.url.query = none ↔ '?' ∉ beforeFragment id.toList := by
  obtain ⟨host, same⟩ := removal_url created visible built
  rw [same, removalUrl, Option.map_eq_none_iff, snd_cut_eq_none]

variable (dash : '-' ∈ id.toList) (written : writtenId? writing = some id)

include dash written

-- A segment without a slash is the last one, and that stands for a part of the id.
theorem fits_of_same_instance (same : SameInstance removing writing) : fitsSegment id = true := by
  obtain ⟨host, url⟩ := removal_url created visible built
  obtain ⟨_, segment, named, text, slashless, decoded, naming⟩ := same
  cases written.symm.trans naming
  obtain ⟨front, part, split, within, plain, _⟩ := split_flat_last (beforeQuery id.toList)
  obtain ⟨before, ends⟩ := segments_last removalEndpoint front part
  rw [← split] at ends
  have path : removing.url.path = before ++ [.ofList (finalSegment part)] := by
    rw [url]
    exact ends
  have spelled := path_text_last removing.url before (finalSegment part) path
  have slash : "/v1/agent/service/deregister/" = "/v1/agent/service/deregister" ++ "/" := rfl
  rw [text, slash, String.toList_append, String.toList_append, List.append_assoc] at spelled
  have unsplit := not_slash_in_final part plain
  obtain ⟨_, final⟩ := Text.split_at_last '/' _ _ _ _ slashless unsplit spelled
  rw [final, finalSegment] at decoded
  split at decoded
  · rw [decoded_iff, decodeBytes] at decoded
    have empty : [] = id.toList :=
      eq_of_length_utf8 (List.nil_sublist id.toList) (by rw [← decoded]; exact Nat.zero_le _)
    rw [← empty] at dash
    exact absurd dash List.not_mem_nil
  · obtain ⟨whole, unescaped⟩ := (decoded_part_iff keeps_escapes_path
      (within.trans (before_query_sublist _))).1 decoded
    rw [whole] at within plain
    have read := (before_query_sublist id.toList).eq_of_length_le within.length_le
    exact (fits_segment_iff id).2 ⟨⟨read, plain⟩, unescaped⟩

theorem same_instance_of_fits (fits : fitsSegment id = true) : SameInstance removing writing := by
  obtain ⟨host, url⟩ := removal_url created visible built
  obtain ⟨⟨read, _⟩, _⟩ := (fits_segment_iff id).1 fits
  obtain ⟨single, double⟩ := not_dots_of_dash id.toList dash
  obtain ⟨segment, text, slashless, decoded⟩ :=
    removal_segment (congrArg Url.path url) fits single double
  have unended := (before_query_eq_iff _).1 read
  have within := (before_fragment_sublist id.toList).subset
  have unasked := (removal_query created visible built).2 fun mem =>
    (unended '?' (within mem)).2.2 rfl
  exact ⟨unasked, segment, id, text, slashless, decoded, written⟩

end

theorem written_id_of_sent {transport : Transport} {d : InstanceDescriptor} {kind : CheckKind}
    (written : (client.register transport (d.registration kind)).request = some writing) :
    writtenId? writing = some d.instanceId := by
  have built := (register_sent_iff client transport (d.registration kind) writing).1 written
  obtain ⟨_, _, body, _⟩ := request_built built
  rw [writtenId?, body]
  rfl

theorem dash_in_id (d : InstanceDescriptor) : '-' ∈ d.instanceId.toList := by
  simp [InstanceDescriptor.instanceId]

theorem id_ends_visible (d : InstanceDescriptor) :
    ∀ c ∈ ('/' :: d.instanceId.toList).getLast?, 0x20 < c.toNat := by
  intro c mem
  rw [InstanceDescriptor.instanceId, String.toList_append, Nat.toString_eq_ofList_toDigits,
    String.toList_ofList, ← List.cons_append, List.getLast?_append_of_ne_nil _ Nat.toDigits_ne_nil]
    at mem
  have digit := Nat.isDigit_of_mem_toDigits (by decide) (by decide) (List.mem_of_getLast? mem)
  have address : isAddressChar c = true := by
    rw [isAddressChar, host_char_digit c digit, Bool.true_or]
  exact (address_char_plain c address).2.1

end

def localTarget : Target := ⟨"consul.local", 8500, "orders", by decide, by decide⟩

def localClient : Client :=
  ⟨"consul.local:8500", "http://consul.local:8500", none, .ofSecs 10, .ofSecs 10⟩

def localInstance (name : String) : InstanceDescriptor := ⟨name, "10.0.0.1", 8080, [], .zero⟩

theorem local_created :
    Client.create localTarget.registryAddress ⟨.ofSecs 10, 1, none⟩ (.ofSecs 10) =
      .ok localClient := by
  decide +kernel

theorem local_sent (name : String) (known : name ∈ ["orders", "team/orders"]) :
    ∃ removing writing,
      (localClient.deregister .silent (localInstance name).instanceId).request =
        some removing ∧
      (localClient.register .silent ((localInstance name).registration .http)).request =
        some writing := by
  have all : ∀ name ∈ ["orders", "team/orders"],
      (localClient.deregister .silent
          (localInstance name).instanceId).request.isSome = true ∧
        (localClient.register .silent
          ((localInstance name).registration .http)).request.isSome = true := by
    decide +kernel
  obtain ⟨removed, written⟩ := all name known
  obtain ⟨removing, removed⟩ := Option.isSome_iff_exists.1 removed
  obtain ⟨writing, written⟩ := Option.isSome_iff_exists.1 written
  exact ⟨removing, writing, removed, written⟩

/-- A request for the removal of an instance names the instance that its registration writes just
when the id fits a segment of a path. -/
theorem removal_names_instance_iff (target : Target) (options : ClientOptions)
    (timeout : Duration) (client : Client)
    (created : Client.create target.registryAddress options timeout = .ok client)
    (d : InstanceDescriptor) (kind : CheckKind) (transport : Transport)
    (removing writing : Request)
    (removed : (client.deregister transport d.instanceId).request = some removing)
    (written : (client.register transport (d.registration kind)).request = some writing) :
    SameInstance removing writing ↔ fitsSegment d.instanceId = true := by
  have built := (deregister_sent_iff client transport d.instanceId removing).1 removed
  have naming := written_id_of_sent written
  have visible := id_ends_visible d
  have dash := dash_in_id d
  exact ⟨fits_of_same_instance created visible built dash naming,
    same_instance_of_fits created visible built dash naming⟩

theorem removal_names_plain_instance :
    let d := localInstance "orders"
    ∃ removing writing, d.validate = .ok () ∧
      Client.create localTarget.registryAddress ⟨.ofSecs 10, 1, none⟩ (.ofSecs 10) =
        .ok localClient ∧
      (localClient.deregister .silent d.instanceId).request = some removing ∧
      (localClient.register .silent (d.registration .http)).request = some writing ∧
      SameInstance removing writing := by
  intro d
  obtain ⟨removing, writing, removed, written⟩ := local_sent "orders" (by decide)
  have law := removal_names_instance_iff localTarget _ _ localClient local_created d .http _
    removing writing removed written
  exact ⟨removing, writing, by decide, local_created, removed, written, law.2 (by decide)⟩

-- A slash in a name makes two segments of it, and neither is the id.
theorem removal_of_slashed_name :
    let d := localInstance "team/orders"
    ∃ removing writing, d.validate = .ok () ∧
      Client.create localTarget.registryAddress ⟨.ofSecs 10, 1, none⟩ (.ofSecs 10) =
        .ok localClient ∧
      (localClient.deregister .silent d.instanceId).request = some removing ∧
      (localClient.register .silent (d.registration .http)).request = some writing ∧
      ¬ SameInstance removing writing := by
  intro d
  obtain ⟨removing, writing, removed, written⟩ := local_sent "team/orders" (by decide)
  refine ⟨removing, writing, by decide, local_created, removed, written, fun same => ?_⟩
  have built := (deregister_sent_iff _ _ _ _).1 removed
  have naming := written_id_of_sent written
  have fits := fits_of_same_instance local_created (id_ends_visible d) built (dash_in_id d) naming
    same
  exact absurd fits (by decide)

end ServiceDiscovery.Consul
