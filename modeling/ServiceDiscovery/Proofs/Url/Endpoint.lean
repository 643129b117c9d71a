import ServiceDiscovery.Proofs.Http.Uri
import ServiceDiscovery.Proofs.Url.Host

namespace ServiceDiscovery.Url

open Text

-- The URL of a host and port, in which the scheme's own port is left out.
def endpoint (host : String) (port : UInt16) (names : List String) : Url where
  secure := false
  credentials := none
  host := host
  port := if port.toNat = 80 then none else some port
  path := names
  query := none
  fragment := none

theorem endpoint_port (host : String) (port : UInt16) (names : List String) :
    (endpoint host port names).port.getD 80 = port := by
  rw [endpoint]
  by_cases own : port.toNat = 80
  · rw [if_pos own]
    exact (UInt16.toNat_inj.1 own).symm
  · rw [if_neg own]
    rfl

theorem port_of_decimal (port : UInt16) :
    port? 80 (toString port.toNat).toList =
      some (if port.toNat = 80 then none else some port) := by
  have bound := port.toNat_lt
  have legal : (Nat.toDigits 10 port.toNat).all isAsciiDigit = true :=
    List.all_eq_true.2 (ascii_digit_of_decimal port.toNat)
  rw [Nat.toString_eq_ofList_toDigits, String.toList_ofList, port?, legal, numeral_decimal,
    if_neg (by simpa using bound)]
  simp only [Nat.toDigits_ne_nil, false_or, UInt16.ofNat_toNat]
  split
  · rfl
  · rfl

theorem plain_path (s : List Char) (plain : ∀ c ∈ s, IsPlain c) :
    beforeQuery s = s ∧ (cut '?' (beforeFragment s)).2 = none ∧ (cut '#' (kept s)).2 = none := by
  have query := query_append plain []
  rw [List.append_nil] at query
  refine ⟨?_, by rw [query]; rfl, ?_⟩
  · rw [beforeQuery, query]
    exact List.append_nil s
  · rw [kept_visible s fun c inside => (plain c inside).1, snd_cut_eq_none]
    exact fun inside => (plain '#' inside).2.1 rfl

/-- Below a registry's address and some names, a text goes on with the rest of the path, a query
and a fragment. It is a URL just when the address has a host that URLs know. -/
theorem parse_below (target : Target) (names : List String)
    (named : ∀ name ∈ names, isName name = true) (text : String) (rest : List Char)
    (below : text.toList = "http://".toList ++
      (target.registryAddress.toList ++ (rooted names ++ '/' :: rest)))
    (last : ∀ c ∈ ('/' :: rest).getLast?, 0x20 < c.toNat) :
    parse? text = (host? target.host.toList).map fun host =>
      { endpoint host target.port (segments names (splitOnChar '/' (flat (beforeQuery rest)))) with
        query := (cut '?' (beforeFragment rest)).2.map fun q => .ofList (encodeChars escapesQuery q)
        fragment := (cut '#' (kept rest)).2.map fun f =>
          .ofList (encodeChars escapesFragment f) } := by
  have front := plain_of_rooted names named
  obtain ⟨after, same⟩ := root_of_names names rest
  have joined : '/' :: after = rooted names ++ ['/'] ++ rest := by
    rw [← same, List.append_assoc, List.singleton_append]
  have ends : ∀ c ∈ ('/' :: after).getLast?, 0x20 < c.toNat := by
    rw [← same, List.getLast?_append_cons]
    exact last
  have path : pathSegments (beforeQuery ('/' :: after)) =
      segments names (splitOnChar '/' (flat (beforeQuery rest))) := by
    obtain ⟨read, root⟩ := root_of_names names (beforeQuery rest)
    rw [joined, before_query_append front, List.append_assoc, List.singleton_append, root,
      path_segments_root, segments_names names named [] _ _ root.symm, List.nil_append]
  have fragment : (cut '#' (kept ('/' :: after))).2 = (cut '#' (kept rest)).2 := by
    have absent : '#' ∉ rooted names ++ ['/'] := fun inside => (front '#' inside).2.1 rfl
    rw [joined, kept_append, kept_visible _ fun c inside => (front c inside).1,
      cut_append _ _ _ absent]
  rw [same] at below
  rw [parse_registry_url below ends, path, fragment, joined, query_append front, port_of_decimal]
  cases host? target.host.toList with
  | none => rfl
  | some host => rfl

theorem segments_last_name (names : List String) (name : String) (named : isName name = true) :
    segments names (splitOnChar '/' (flat name.toList)) = names ++ [name] := by
  have plain := plain_of_name name named
  have absent : '/' ∉ name.toList := fun inside => absurd (plain _ inside) (by decide)
  rw [flat_plain _ plain, split_on_char_plain '/' _ absent, segments_name names name [] named]
  rfl

theorem parse_names (target : Target) (names : List String) (last : String)
    (named : ∀ name ∈ names ++ [last], isName name = true) (text : String)
    (below : text.toList = "http://".toList ++
      (target.registryAddress.toList ++ rooted (names ++ [last]))) :
    parse? text = (host? target.host.toList).map fun host =>
      endpoint host target.port (names ++ [last]) := by
  have front : ∀ name ∈ names, isName name = true := fun name inside =>
    named name (List.mem_append_left _ inside)
  have final : isName last = true := named last (by simp)
  have plain : ∀ c ∈ last.toList, IsPlain c := fun c inside =>
    plain_of_rooted _ named c (by simp [rooted, inside])
  have written : rooted (names ++ [last]) = rooted names ++ '/' :: last.toList := by
    rw [rooted_append]
    simp [rooted]
  have visible : ∀ c ∈ ('/' :: last.toList).getLast?, 0x20 < c.toNat := fun c ends => by
    rcases List.mem_cons.1 (List.mem_of_getLast? ends) with rfl | inside
    · decide
    · exact (plain c inside).1
  obtain ⟨whole, query, fragment⟩ := plain_path _ plain
  rw [written] at below
  rw [parse_below target names front text last.toList below visible, whole, query, fragment,
    segments_last_name names last final]
  cases host? target.host.toList with
  | none => rfl
  | some host => rfl

theorem service_char_kept (c : Char) (legal : isServiceChar c = true) :
    isSlash c = false ∧ escapesPath c = false ∧ lowerChar c ≠ '.' ∧ lowerChar c ≠ '%' := by
  have host := host_char_of_service c legal
  refine forall_ascii (p := fun c => isServiceChar c = true → isSlash c = false ∧
    escapesPath c = false ∧ lowerChar c ≠ '.' ∧ lowerChar c ≠ '%') ?_ c (host_char_kept c host).1
    legal
  decide

theorem name_of_service (target : Target) : isName target.service = true := by
  obtain ⟨written, chars⟩ := target.service_run
  have legal (c : Char) (inside : c ∈ target.service.toList) := service_char_kept c
    (List.all_eq_true.1 chars c inside)
  have dots : isDot target.service.toList = false ∧ isDoubleDot target.service.toList = false := by
    cases service : target.service.toList with
    | nil => exact absurd service written
    | cons c rest =>
        rw [service] at legal
        obtain ⟨_, _, dot, mark⟩ := legal c List.mem_cons_self
        exact not_dots_of_head c rest dot mark
  have plain : (target.service.toList.all fun c => !isSlash c && !escapesPath c) = true := by
    refine List.all_eq_true.2 fun c inside => ?_
    rw [(legal c inside).1, (legal c inside).2.1]
    rfl
  rw [isName, plain, dots.1, dots.2]
  rfl

end ServiceDiscovery.Url
