import ServiceDiscovery.Proofs.Url.Domain

namespace ServiceDiscovery.Url

open Text Domain

-- A host that is, in lower case, the host of its URL.
structure StandsForItself (host : String) : Prop where
  spelled : IsSpelled (lower host)
  address : endsInNumber (lower host).toList = true → IsAddress (lower host)

theorem to_list_lower (s : String) : (lower s).toList = s.toList.map lowerChar := by
  rw [lower, String.toList_ofList]

theorem host_char_kept (c : Char) (legal : isHostChar c = true) :
    c.toNat < 128 ∧ isHostChar (lowerChar c) = true ∧ isForbidden (lowerChar c) = false ∧
      c ≠ '%' ∧ c ≠ '[' := by
  have ascii := ascii_of_host_char c legal
  refine ⟨ascii, ?_⟩
  refine forall_ascii (p := fun c => isHostChar c = true → isHostChar (lowerChar c) = true ∧
    isForbidden (lowerChar c) = false ∧ c ≠ '%' ∧ c ≠ '[') ?_ c ascii legal
  decide

theorem decoded_plain (s : List Char) (plain : '%' ∉ s) : decoded? s = some (.ofList s) := by
  have unescaped : hasEscape s = false := by
    induction s with
    | nil => rfl
    | cons c s ih =>
        rw [List.mem_cons, not_or] at plain
        rw [hasEscape, ih plain.2, beq_false_of_ne (Ne.symm plain.1)]
        rfl
  rw [decoded_iff, String.toList_ofList]
  exact decode_bytes_plain s unescaped

theorem folded_ascii (s : List Char) (ascii : ∀ c ∈ s, c.toNat < 128) :
    folded? s = some (s.map lowerChar) := by
  have mapped : s.mapM mapChar? = some (s.map fun c => [lowerChar c]) := by
    induction s with
    | nil => rfl
    | cons c s ih =>
        obtain ⟨first, others⟩ := List.forall_mem_cons.1 ascii
        rw [List.mapM_cons, mapChar?_of_ascii first, ih others]
        rfl
  have flat : (s.map fun c => [lowerChar c]).flatten = s.map lowerChar := by
    rw [← List.flatMap_def, List.map_eq_flatMap]
  have low : ∀ c : Char, c.toNat < 128 → (lowerChar c).toNat < 128 :=
    forall_ascii (p := fun c => (lowerChar c).toNat < 128) (by decide)
  have lowered : (s.map lowerChar).all (·.toNat < 128) = true := by
    rw [List.all_map, List.all_eq_true]
    exact fun c inside => decide_eq_true (low c (ascii c inside))
  rw [folded?, mapped, Option.map_some, flat, composed_of_ascii lowered]

section

variable {host : String} (run : IsRun isHostChar host.toList)

include run

theorem lower_host_chars : ∀ c ∈ (lower host).toList,
    isHostChar c = true ∧ isForbidden c = false := by
  intro c inside
  rw [to_list_lower, List.mem_map] at inside
  obtain ⟨d, there, rfl⟩ := inside
  obtain ⟨_, legal, allowed, _⟩ := host_char_kept d (List.all_eq_true.1 run.2 d there)
  exact ⟨legal, allowed⟩

theorem ascii_of_lower : ∀ c ∈ (lower host).toList, c.toNat < 128 := fun c inside =>
  (host_char_kept c (lower_host_chars run c inside).1).1

theorem ascii_of_run :
    ascii? host.toList = if isSpelled (lower host) then some (lower host).toList else none := by
  have folded := folded_ascii host.toList fun c inside =>
    (host_char_kept c (List.all_eq_true.1 run.2 c inside)).1
  have chars := lower_host_chars run
  have allowed : ((lower host).toList.any isForbidden) = false := by
    rw [List.any_eq_false]
    intro c inside
    rw [(chars c inside).2]
    exact Bool.false_ne_true
  have named := ascii_name (lower host).toList (ascii_of_lower run)
  rw [ascii?, folded, ← to_list_lower]
  simp only [Option.bind_eq_bind, Option.bind_some, allowed]
  exact named

/-- The host of a target in its place in a URL. -/
theorem host_of_run :
    host? host.toList =
      if isSpelled (lower host) then
        if endsInNumber (lower host).toList then (ipv4? (lower host).toList).map ipv4Text
        else some (lower host)
      else none := by
  have kept (c : Char) (inside : c ∈ host.toList) := host_char_kept c
    (List.all_eq_true.1 run.2 c inside)
  have unbracketed : ∀ rest, host.toList ≠ '[' :: rest := by
    intro rest same
    exact (kept '[' (same ▸ List.mem_cons_self)).2.2.2.2 rfl
  have decoded := decoded_plain host.toList fun mark => (kept '%' mark).2.2.2.1 rfl
  have written : (lower host).toList ≠ [] := by
    rw [to_list_lower]
    exact mt List.map_eq_nil_iff.1 run.1
  rw [host?]
  · simp only [decoded, String.toList_ofList, ascii_of_run run, Option.bind_eq_bind,
      Option.bind_some]
    cases isSpelled (lower host) with
    | false => rfl
    | true => simp [written]
  · exact unbracketed

/-- The URL of a target names its host just when the host stands for itself. -/
theorem host_kept_iff : host? host.toList = some (lower host) ↔ StandsForItself host := by
  have address := address_kept_iff (lower host)
  have named := spelled_iff (lower host) (ascii_of_lower run)
  rw [host_of_run run]
  cases spelled : isSpelled (lower host) with
  | false =>
      refine ⟨fun missing => by simp at missing, fun stands => ?_⟩
      cases spelled.symm.trans (named.1 stands.spelled)
  | true =>
      cases number : endsInNumber (lower host).toList with
      | false =>
          refine ⟨fun _ => ⟨named.2 spelled, fun other => ?_⟩, fun _ => rfl⟩
          cases number.symm.trans other
      | true =>
          refine ⟨fun kept => ⟨named.2 spelled, fun _ => address.1 kept⟩, fun stands => ?_⟩
          exact address.2 (stands.address number)

theorem host_read_cases (other : String) (read : host? host.toList = some other) :
    other = lower host ∨
      endsInNumber (lower host).toList = true ∧
        ∃ n, ipv4? (lower host).toList = some n ∧ other = ipv4Text n := by
  rw [host_of_run run] at read
  split at read
  · split at read
    · rename_i number
      obtain ⟨n, value, rfl⟩ := Option.map_eq_some_iff.1 read
      exact .inr ⟨number, n, value, rfl⟩
    · exact .inl (Option.some.inj read).symm
  · cases read

theorem run_of_read (other : String) (read : host? host.toList = some other) :
    IsRun isHostChar other.toList := by
  rcases host_read_cases run other read with rfl | ⟨_, n, value, rfl⟩
  · refine ⟨?_, List.all_eq_true.2 fun c inside => (lower_host_chars run c inside).1⟩
    rw [to_list_lower]
    exact mt List.map_eq_nil_iff.1 run.1
  · exact address_run _ (is_address_ipv4_text n (ipv4_bound _ n value))

theorem spelled_of_plain (plain : ∀ label ∈ splitOnChar '.' (lower host).toList,
    ¬ spellingStart <+: label) : IsSpelled (lower host) := by
  refine ⟨_, _, split_on_char_ne_nil _ _, (intercalate_split '.' _).symm, split_absent '.' _,
    List.forall₂_same.2 fun label there => .plain (plain label there), ?_⟩
  rintro ⟨label, there, c, inside, rightward⟩
  have ascii := ascii_of_lower run c (mem_of_split '.' c _ label inside there)
  cases (rightward_ascii c ascii).symm.trans rightward

theorem stands_of_plain (plain : ∀ label ∈ splitOnChar '.' (lower host).toList,
    ¬ spellingStart <+: label)
    (name : endsInNumber (lower host).toList = false) : StandsForItself host where
  spelled := spelled_of_plain run plain
  address number := by cases name.symm.trans number

end

end ServiceDiscovery.Url
