import ServiceDiscovery.Http
import ServiceDiscovery.Proofs.Url.Path

namespace ServiceDiscovery.Http

open Text Url

def Uri.InPath (c : Char) : Prop := isPathChar c = true ∧ c ≠ '?' ∧ c ≠ '#'
def Uri.InQuery (c : Char) : Prop := isQueryChar c = true ∧ c ≠ '#'

-- A URL of a host and port, with a path and a query that may be written in a URI.
structure IsSimple (url : Url) : Prop where
  insecure : url.secure = false
  anonymous : url.credentials = none
  host : IsRun isHostChar url.host.toList
  path : ∀ segment ∈ url.path, ∀ c ∈ segment.toList, Uri.InPath c
  query : ∀ query, url.query = some query → ∀ c ∈ query.toList, Uri.InQuery c

namespace Uri

theorem host_char_scanned (c : Char) (legal : isHostChar c = true) :
    isAuthorityChar c = true ∧ endsAuthority c = false ∧ c ≠ ':' ∧ c ≠ '[' ∧ c ≠ ']' ∧ c ≠ '@' ∧
      c ≠ '%' := by
  have ascii : c.toNat < 128 := ascii_of_address_char c (by rw [isAddressChar, legal]; rfl)
  refine forall_ascii (p := fun c => isHostChar c = true → isAuthorityChar c = true ∧
    endsAuthority c = false ∧ c ≠ ':' ∧ c ≠ '[' ∧ c ≠ ']' ∧ c ≠ '@' ∧ c ≠ '%') ?_ c ascii legal
  decide +kernel

theorem ascii_of_uncontrolled {c : Char} (kept : escapesControl c = false) : c.toNat < 128 := by
  simp only [escapesControl, Bool.or_eq_false_iff, decide_eq_false_iff_not] at kept
  omega

theorem unescaped_path_char (c : Char) (kept : escapesPath c = false) : InPath c := by
  have ascii : c.toNat < 128 := by
    simp only [escapesPath, escapesFragment, Bool.or_eq_false_iff] at kept
    exact ascii_of_uncontrolled kept.1.1.1.1.1.1.1.1.1
  refine forall_ascii (p := fun c => escapesPath c = false → isPathChar c = true ∧ c ≠ '?' ∧
    c ≠ '#') ?_ c ascii kept
  decide +kernel

theorem unescaped_query_char (c : Char) (kept : escapesQuery c = false) : InQuery c := by
  have ascii : c.toNat < 128 := by
    simp only [escapesQuery, Bool.or_eq_false_iff] at kept
    exact ascii_of_uncontrolled kept.1.1.1.1.1.1
  refine forall_ascii (p := fun c => escapesQuery c = false → isQueryChar c = true ∧ c ≠ '#') ?_ c
    ascii kept
  decide +kernel

theorem escape_char (c : Char) (escape : c = '%' ∨ isHexDigit c = true) : InPath c ∧ InQuery c := by
  have ascii : c.toNat < 128 := by
    rcases escape with rfl | digit
    · decide
    · exact ascii_of_hex_digit c digit
  refine forall_ascii (p := fun c => c = '%' ∨ isHexDigit c = true →
    (isPathChar c = true ∧ c ≠ '?' ∧ c ≠ '#') ∧ isQueryChar c = true ∧ c ≠ '#') ?_ c ascii escape
  decide +kernel

theorem encoded_in_path (s : List Char) : ∀ c ∈ encodeChars escapesPath s, InPath c := by
  intro c inside
  rcases mem_encode_chars inside with mark | digit | ⟨_, kept⟩
  · exact (escape_char c (.inl mark)).1
  · exact (escape_char c (.inr digit)).1
  · exact unescaped_path_char c kept

theorem encoded_in_query (s : List Char) : ∀ c ∈ encodeChars escapesQuery s, InQuery c := by
  intro c inside
  rcases mem_encode_chars inside with mark | digit | ⟨_, kept⟩
  · exact (escape_char c (.inl mark)).2
  · exact (escape_char c (.inr digit)).2
  · exact unescaped_query_char c kept

theorem name_in_path (name : String) (named : isName name = true) :
    ∀ c ∈ name.toList, InPath c := by
  simp only [isName, Bool.and_eq_true, Bool.not_eq_true', List.all_eq_true] at named
  exact fun c inside => unescaped_path_char c (named.1.1 c inside).2

theorem segments_in_path (parts : List (List Char)) (before : List String)
    (legal : ∀ segment ∈ before, ∀ c ∈ segment.toList, InPath c) :
    ∀ segment ∈ segments before parts, ∀ c ∈ segment.toList, InPath c := by
  have empty : ∀ c ∈ "".toList, InPath c := List.forall_mem_nil _
  have ended (rest : List (List Char)) :
      ∀ segment ∈ (if rest = [] then [""] else []), ∀ c ∈ segment.toList, InPath c := by
    intro segment inside
    split at inside
    · rw [List.mem_singleton.1 inside]
      exact empty
    · cases inside
  induction parts generalizing before with
  | nil => exact legal
  | cons part rest ih =>
      rw [segments]
      split
      · refine ih _ (List.forall_mem_append.2 ⟨fun segment inside => legal segment ?_, ended rest⟩)
        unfold leadBack at inside
        split at inside
        · exact inside
        · exact List.dropLast_subset before inside
      · split
        · exact ih _ (List.forall_mem_append.2 ⟨legal, ended rest⟩)
        · refine ih _ (List.forall_mem_append.2 ⟨legal, fun segment inside => ?_⟩)
          rw [List.mem_singleton.1 inside, String.toList_ofList]
          exact encoded_in_path part

theorem scan_run (s : List Char) (chars : ∀ c ∈ s, isHostChar c = true) (colons : Nat) :
    s.foldlM Scan.step? ⟨colons, false, false, false, false⟩ =
      some ⟨colons, false, false, false, false⟩ := by
  induction s with
  | nil => rfl
  | cons c s ih =>
      obtain ⟨first, others⟩ := List.forall_mem_cons.1 chars
      obtain ⟨legal, _, colon, opened, closed, user, percent⟩ := host_char_scanned c first
      rw [List.foldlM_cons, Scan.step?]
      simp only [legal, colon, opened, closed, user, percent, not_true_eq_false, if_false]
      exact ih others

theorem authority_of_run (host : List Char) (run : IsRun isHostChar host) :
    isAuthority host = true := by
  rw [isAuthority, scan_run host (List.all_eq_true.1 run.2) 0]
  simp [Scan.complete, run.1]

theorem authority_of_address (host port : List Char) (run : IsRun isHostChar host)
    (digits : ∀ c ∈ port, isHostChar c = true) : isAuthority (host ++ ':' :: port) = true := by
  have colon : Scan.step? ⟨0, false, false, false, false⟩ ':' =
      some ⟨1, false, false, false, false⟩ := rfl
  rw [isAuthority, List.foldlM_append, scan_run host (List.all_eq_true.1 run.2) 0,
    Option.bind_eq_bind, Option.bind_some, List.foldlM_cons, colon, Option.bind_eq_bind,
    Option.bind_some, scan_run port digits 1]
  simp [Scan.complete]

theorem strip_start (rest : List Char) :
    stripStart? "http://" ("http://".toList ++ rest) = some rest := by
  have lowered : "http://".toList.map lowerChar = "http://".toList := by decide
  have length : "http://".length = "http://".toList.length := rfl
  rw [stripStart?, length, List.take_left, List.drop_left, if_pos lowered]

theorem parse_parts {text : String} (authority path : List Char)
    (query fragment : Option (List Char))
    (written : text.toList = "http://".toList ++ (authority ++ ('/' :: path ++
      query.elim [] ('?' :: ·) ++ fragment.elim [] ('#' :: ·))))
    (legal : isAuthority authority = true) (unended : ∀ c ∈ authority, endsAuthority c = false)
    (plain : ∀ c ∈ '/' :: path, InPath c) (queried : ∀ q, query = some q → ∀ c ∈ q, InQuery c) :
    parse? text =
      if maxBytes < text.utf8ByteSize then none
      else some ⟨false, authority, '/' :: path, query⟩ := by
  have front : (authority ++ ('/' :: path ++ query.elim [] ('?' :: ·) ++
      fragment.elim [] ('#' :: ·))).takeWhile (!endsAuthority ·) = authority := by
    refine take_while_until _ _ (fun c inside => by rw [unended c inside]; rfl) fun c first => ?_
    cases first
    rfl
  have target : ('/' :: path ++ query.elim [] ('?' :: ·) ++
      fragment.elim [] ('#' :: ·)).takeWhile (· ≠ '#') =
        '/' :: path ++ query.elim [] ('?' :: ·) := by
    refine take_while_until _ _ (fun c inside => decide_eq_true ?_) fun c first => ?_
    · rcases List.mem_append.1 inside with inside | inside
      · exact (plain c inside).2.2
      · cases query with
        | none => cases inside
        | some q =>
            rcases List.mem_cons.1 inside with rfl | inside
            · decide
            · exact (queried q rfl c inside).2
    · cases fragment with
      | none => cases first
      | some f =>
          cases first
          rfl
  have pathed : ('/' :: path).all isPathChar = true :=
    List.all_eq_true.2 fun c inside => (plain c inside).1
  have rooted : ('/' :: path ++ query.elim [] ('?' :: ·)).takeWhile (· ≠ '?') = '/' :: path := by
    refine take_while_until _ _ (fun c inside => decide_eq_true (plain c inside).2.1)
      fun c first => ?_
    cases query with
    | none => cases first
    | some q =>
        cases first
        rfl
  rw [parse?, written, strip_start]
  by_cases long : maxBytes < text.utf8ByteSize
  · rw [if_pos long, if_pos long]
    rfl
  · rw [if_neg long, if_neg long]
    simp only [Option.map_some, Option.some_or, Option.bind_eq_bind, Option.bind_some, front,
      List.drop_left, target, rooted, legal, pathed]
    cases query with
    | none => simp
    | some q =>
        have all : q.all isQueryChar = true :=
          List.all_eq_true.2 fun c inside => (queried q rfl c inside).1
        simp [all]

section

variable {url : Url} (simple : IsSimple url)

include simple

theorem authority_chars :
    isAuthority url.authorityText.toList = true ∧
      ∀ c ∈ url.authorityText.toList, endsAuthority c = false := by
  have chars := List.all_eq_true.1 simple.host.2
  have written : url.authorityText.toList =
      url.host.toList ++ url.port.elim [] fun p => ':' :: (toString p.toNat).toList := by
    rw [authorityText, simple.anonymous]
    cases url.port with
    | none => simp
    | some port => simp
  rw [written]
  cases url.port with
  | none =>
      rw [Option.elim_none, List.append_nil]
      exact ⟨authority_of_run _ simple.host, fun c inside =>
        (host_char_scanned c (chars c inside)).2.1⟩
  | some port =>
      refine ⟨authority_of_address _ _ simple.host (host_char_decimal _), fun c inside => ?_⟩
      rcases List.mem_append.1 inside with inside | inside
      · exact (host_char_scanned c (chars c inside)).2.1
      · rcases List.mem_cons.1 inside with rfl | inside
        · rfl
        · exact (host_char_scanned c (host_char_decimal _ c inside)).2.1

theorem path_chars :
    ∃ rest, url.pathText.toList = '/' :: rest ∧ ∀ c ∈ '/' :: rest, InPath c := by
  have slash : InPath '/' := ⟨by decide, by decide, by decide⟩
  have rooted_chars : ∀ c ∈ rooted url.path, InPath c := by
    intro c inside
    obtain ⟨segment, there, inside⟩ := List.mem_flatMap.1 inside
    rcases List.mem_cons.1 inside with rfl | inside
    · exact slash
    · exact simple.path segment there c inside
  cases names : url.path with
  | nil =>
      refine ⟨[], by rw [pathText, names]; rfl, fun c inside => ?_⟩
      rw [List.mem_singleton.1 inside]
      exact slash
  | cons name rest =>
      have written : url.pathText.toList = rooted url.path := by
        rw [names, ← rooted_join, pathText, names, joinWith, String.toList_append,
          String.toList_intercalate]
        rfl
      rw [names, rooted_cons] at written
      rw [names, rooted_cons] at rooted_chars
      exact ⟨_, written, rooted_chars⟩

/-- A simple URL is a URI with the same parts but for the fragment, unless it is too long. -/
theorem uri_of_simple :
    parse? url.text =
      if maxBytes < url.text.utf8ByteSize then none
      else some
        ⟨false, url.authorityText.toList, url.pathText.toList, url.query.map (·.toList)⟩ := by
  obtain ⟨legal, unended⟩ := authority_chars simple
  obtain ⟨path, rootedPath, plain⟩ := path_chars simple
  have written : url.text.toList =
      "http://".toList ++ (url.authorityText.toList ++ (url.pathText.toList ++
        (url.query.map (·.toList)).elim [] ('?' :: ·) ++
        (url.fragment.map (·.toList)).elim [] ('#' :: ·))) := by
    rw [Url.text, requestText, simple.insecure]
    cases url.query with
    | none => cases url.fragment <;> simp
    | some q => cases url.fragment <;> simp
  rw [rootedPath] at written ⊢
  refine parse_parts _ path (url.query.map (·.toList)) (url.fragment.map (·.toList)) written legal
    unended plain fun q there => ?_
  obtain ⟨query, present, rfl⟩ := Option.map_eq_some_iff.1 there
  exact simple.query query present

end

end Uri

end ServiceDiscovery.Http
