import ServiceDiscovery.Proofs.Consul.Polling
import ServiceDiscovery.Proofs.Consul.Removal

namespace ServiceDiscovery.Consul

open Http Text Url

-- An id that can be a segment of a path and leads nowhere else.
structure Nameable (id : String) : Prop where
  fits : fitsSegment id = true
  dotless : id ≠ "." ∧ id ≠ ".."
  visible : ∀ c ∈ id.toList.getLast?, 0x20 < c.toNat

theorem lower_char_kept (c : Char) :
    (lowerChar c = '%' ↔ c = '%') ∧ (lowerChar c = '.' ↔ c = '.') ∧
      isHexDigit (lowerChar c) = isHexDigit c := by
  by_cases capital : ('A' ≤ c && c ≤ 'Z') = true
  · refine forall_ascii (p := fun c => (lowerChar c = '%' ↔ c = '%') ∧
      (lowerChar c = '.' ↔ c = '.') ∧ isHexDigit (lowerChar c) = isHexDigit c) ?_ c
      (ascii_of_range (by decide) capital)
    decide +kernel
  · rw [lowerChar, if_neg capital]
    exact ⟨Iff.rfl, Iff.rfl, rfl⟩

theorem has_escape_lower (s : List Char) : hasEscape (s.map lowerChar) = hasEscape s := by
  induction s with
  | nil => rfl
  | cons c rest ih =>
      have mark : (lowerChar c == '%') = (c == '%') := by
        rw [Bool.eq_iff_iff, beq_iff_eq, beq_iff_eq]
        exact (lower_char_kept c).1
      have pair : digitPair (rest.map lowerChar) = digitPair rest := by
        rcases rest with _ | ⟨a, _ | ⟨b, rest⟩⟩
        · rfl
        · rfl
        · change (isHexDigit (lowerChar a) && isHexDigit (lowerChar b)) =
            (isHexDigit a && isHexDigit b)
          rw [(lower_char_kept a).2.2, (lower_char_kept b).2.2]
      rw [List.map_cons, hasEscape, hasEscape, mark, pair, ih]

theorem not_dots_of_nameable {id : String} (nameable : Nameable id) :
    isDot id.toList = false ∧ isDoubleDot id.toList = false := by
  obtain ⟨_, unescaped⟩ := (fits_segment_iff id).1 nameable.fits
  have known : ∀ text ∈ dotSpellings, hasEscape text.toList = true ∨
      (text = "." ∨ text = "..") ∧ text.toList.all (· == '.') = true := by decide
  refine not_dots_of_other _ fun spelled => ?_
  have lowered : (lower (.ofList id.toList)).toList = id.toList.map lowerChar := by
    rw [lower, String.toList_ofList, String.toList_ofList]
  obtain escaped | ⟨dots, only⟩ := known _ spelled
  · rw [lowered, has_escape_lower, unescaped] at escaped
    cases escaped
  · have same : lower (.ofList id.toList) = id := by
      rw [← String.toList_inj, lowered]
      refine (List.map_congr_left fun c inside => ?_).trans (List.map_id' _)
      have dot := eq_of_beq
        (List.all_eq_true.1 only (lowerChar c) (lowered ▸ List.mem_map_of_mem inside))
      rw [dot, (lower_char_kept c).2.1.1 dot]
    rw [same] at dots
    exact dots.elim nameable.dotless.1 nameable.dotless.2

theorem split_blank_end (s : List Char) :
    ∃ core blanks, s = core ++ blanks ∧ (∀ c ∈ blanks, c.toNat ≤ 0x20) ∧
      ∀ c ∈ core.getLast?, 0x20 < c.toNat := by
  refine ⟨(s.reverse.dropWhile (·.toNat ≤ 0x20)).reverse,
    (s.reverse.takeWhile (·.toNat ≤ 0x20)).reverse, ?_, fun c inside => ?_, fun c last => ?_⟩
  · rw [← List.reverse_append, List.takeWhile_append_dropWhile, List.reverse_reverse]
  · have blank := List.mem_takeWhile_imp (List.mem_reverse.1 inside)
    exact of_decide_eq_true blank
  · rw [List.getLast?_reverse] at last
    have visible := List.head?_dropWhile_not (fun c : Char => decide (c.toNat ≤ 0x20)) s.reverse
    rw [last] at visible
    exact Nat.not_le.1 (of_decide_eq_false visible)

section

variable {target : Target} {host : String} (read : host? target.host.toList = some host)

include read

theorem simple_removal_url (id : List Char) : IsSimple (removalUrl target host id) where
  insecure := rfl
  anonymous := rfl
  host := run_of_read target.host_run host read
  path := by
    refine Uri.segments_in_path _ removalEndpoint fun name inside => Uri.name_in_path name ?_
    have named : ∀ name ∈ removalEndpoint, isName name = true := by decide
    exact named name inside
  query := by
    intro query there c inside
    obtain ⟨q, _, rfl⟩ := Option.map_eq_some_iff.1 there
    rw [String.toList_ofList] at inside
    exact Uri.encoded_in_query q c inside

theorem removal_parsed (id : String) :
    ∃ core, Url.parse? ("http://" ++ target.registryAddress ++ "/v1/agent/service/deregister/" ++
        id) = some (removalUrl target host core) ∧
      ((∀ c ∈ id.toList.getLast?, 0x20 < c.toNat) → core = id.toList) := by
  obtain ⟨core, blanks, split, blank, visible⟩ := split_blank_end id.toList
  have ends : ∀ c ∈ ('/' :: (String.ofList core).toList).getLast?, 0x20 < c.toNat := by
    rw [String.toList_ofList, List.getLast?_cons]
    intro c last
    cases final : core.getLast? with
    | none =>
        rw [final] at last
        cases last
        decide
    | some d =>
        rw [final] at last
        cases last
        exact visible d final
  have parsed := parse_removal target (.ofList core) ends
  rw [read, Option.map_some, String.toList_ofList] at parsed
  refine ⟨core, ?_, fun unblank => ?_⟩
  · rw [← parsed]
    have whole (end_ : List Char) : "http://" ++ target.registryAddress ++
        "/v1/agent/service/deregister/" ++ String.ofList end_ =
        .ofList (("http://" ++ target.registryAddress ++
          "/v1/agent/service/deregister/").toList ++ end_) := by
      rw [← String.toList_inj]
      simp
    rw [whole core, ← parse_append_blank _ blanks blank, List.append_assoc, ← split, ← whole,
      String.ofList_toList]
  · cases last : blanks.getLast? with
    | none => rw [split, List.getLast?_eq_none_iff.1 last, List.append_nil]
    | some c =>
        have final : c ∈ id.toList.getLast? := by
          rw [split, List.getLast?_append, last]
          rfl
        exact absurd (unblank c final) (Nat.not_lt.2 (blank c (List.mem_of_getLast? last)))

end

structure AtRegistry (target : Target) (url : Url) : Prop where
  insecure : url.secure = false
  anonymous : url.credentials = none
  host : url.host = lower target.host
  port : url.port.getD 80 = target.port

theorem removal_port (target : Target) (host : String) (id : List Char) :
    (removalUrl target host id).port.getD 80 = target.port :=
  endpoint_port host target.port
    (segments removalEndpoint (splitOnChar '/' (flat (beforeQuery id))))

theorem removal_ends_with_path (target : Target) (host : String) {id : String}
    (fits : fitsSegment id = true) :
    (removalUrl target host id.toList).query = none ∧
      (removalUrl target host id.toList).fragment = none := by
  obtain ⟨⟨whole, _⟩, _⟩ := (fits_segment_iff id).1 fits
  have unended := (before_query_eq_iff _).1 whole
  have within := (before_fragment_sublist id.toList).subset
  refine ⟨Option.map_eq_none_iff.2 ?_, Option.map_eq_none_iff.2 ?_⟩
  · exact (snd_cut_eq_none _ _).2 fun inside => (unended '?' (within inside)).2.2 rfl
  · exact (snd_cut_eq_none _ _).2 fun inside => (unended '#' (List.mem_filter.1 inside).1).2.1 rfl

section

variable {target : Target} {client : Client}

theorem register_request_iff (base : client.baseUrl = "http://" ++ target.registryAddress)
    (legal : Client.legalToken client.token = true) (stands : StandsForItself target.host)
    (r : Registration) :
    ∃ url, Url.parse? (client.baseUrl ++ "/v1/agent/service/register") = some url ∧
      AtRegistry target url ∧ url.pathText = "/v1/agent/service/register" ∧ url.query = none ∧
      url.fragment = none ∧
      ∀ request, client.registerRequest r = .ok request ↔
        url.text.utf8ByteSize ≤ Uri.maxBytes ∧
          request = ⟨.put, url, client.token, some (Client.registrationJson r),
            client.requestTimeout⟩ := by
  have read := (host_kept_iff target.host_run).2 stands
  have named : ∀ name ∈ ["v1", "agent", "service"] ++ ["register"], isName name = true := by decide
  have parsed := parse_names target ["v1", "agent", "service"] "register" named
    (client.baseUrl ++ "/v1/agent/service/register") (by rw [base]; simp [rooted])
  rw [read, Option.map_some] at parsed
  have simple : IsSimple (endpoint (lower target.host) target.port
      (["v1", "agent", "service"] ++ ["register"])) := {
    insecure := rfl
    anonymous := rfl
    host := run_of_read target.host_run _ read
    path := fun name inside => Uri.name_in_path name (named name inside)
    query := fun _ none => by cases none }
  refine ⟨_, parsed, ⟨rfl, rfl, rfl, endpoint_port _ _ _⟩, rfl, rfl, rfl, fun request => ?_⟩
  exact request_iff parsed legal (if_pos rfl).symm simple request

theorem deregister_request_iff (base : client.baseUrl = "http://" ++ target.registryAddress)
    (legal : Client.legalToken client.token = true) (stands : StandsForItself target.host)
    (id : String) :
    ∃ url, Url.parse? (client.baseUrl ++ "/v1/agent/service/deregister/" ++ id) = some url ∧
      AtRegistry target url ∧
      (Nameable id → url.query = none ∧ url.fragment = none ∧
        ∃ segment, url.pathText = "/v1/agent/service/deregister/" ++ segment ∧
          '/' ∉ segment.toList ∧ Url.decoded? segment.toList = some id) ∧
      ∀ request, client.deregisterRequest id = .ok request ↔
        url.text.utf8ByteSize ≤ Uri.maxBytes ∧
          request = ⟨.put, url, client.token, none, client.requestTimeout⟩ := by
  have read := (host_kept_iff target.host_run).2 stands
  obtain ⟨core, parsed, whole⟩ := removal_parsed read id
  rw [← base] at parsed
  refine ⟨_, parsed, ⟨rfl, rfl, rfl, removal_port target _ core⟩, fun nameable => ?_,
    request_iff parsed legal (if_pos rfl).symm (simple_removal_url read core)⟩
  obtain ⟨single, double⟩ := not_dots_of_nameable nameable
  obtain ⟨query, fragment⟩ := removal_ends_with_path target (lower target.host) nameable.fits
  rw [whole nameable.visible]
  exact ⟨query, fragment, removal_segment rfl nameable.fits single double⟩

end

end ServiceDiscovery.Consul
