import ServiceDiscovery.Proofs.Consul.Exchange

namespace ServiceDiscovery.Consul

open Http Text

-- One ASCII digit or more, with or without a plus sign.
def Writes (bytes : List UInt8) (n : Nat) : Prop :=
  ∃ digits : List UInt8, (bytes = digits ∨ bytes = 43 :: digits) ∧ digits ≠ [] ∧
    (∀ d ∈ digits, 48 ≤ d.toNat ∧ d.toNat ≤ 57) ∧
    digits.foldl (fun n d => n * 10 + (d.toNat - 48)) 0 = n

-- The first header of its name, in whatever case, writes the watermark.
def Indexed (r : Response) (index : UInt64) : Prop :=
  ∃ before name bytes after, r.headers = before ++ (name, bytes) :: after ∧
    equalFold name "X-Consul-Index" = true ∧
    (∀ header ∈ before, equalFold header.1 "X-Consul-Index" = false) ∧
    Writes bytes index.toNat

-- The body is an array, and each element of it is an entry.
def Listed (r : Response) (entries : List ServiceEntry) : Prop :=
  ∃ bytes items, r.body = some bytes ∧ jsonOfBytes? bytes = some (.array items) ∧
    List.Forall₂ (fun item entry => ∃ e, healthEntry? item = some e ∧ e.entry = entry)
      items entries

def char (b : UInt8) : Char := Char.ofNat b.toNat

theorem digit_char (b : UInt8) :
    isAsciiDigit (char b) = true ↔ 48 ≤ b.toNat ∧ b.toNat ≤ 57 := by
  have all : ∀ n < 256, isAsciiDigit (Char.ofNat n) = true ↔ 48 ≤ n ∧ n ≤ 57 := by decide +kernel
  exact all b.toNat b.toNat_lt

theorem value_char (b : UInt8) (digit : 48 ≤ b.toNat ∧ b.toNat ≤ 57) :
    digitValue (char b) = b.toNat - 48 := by
  have all : ∀ n < 58, 48 ≤ n → digitValue (Char.ofNat n) = n - 48 := by decide +kernel
  exact all b.toNat (by omega) digit.1

theorem plus_char (b : UInt8) : char b = '+' ↔ b = 43 := by
  have all : ∀ n < 256, Char.ofNat n = '+' ↔ n = 43 := by decide +kernel
  rw [char, all b.toNat b.toNat_lt, ← UInt8.toNat_inj]
  rfl

theorem numeral_chars (digits : List UInt8) (n : Nat)
    (legal : ∀ d ∈ digits, 48 ≤ d.toNat ∧ d.toNat ≤ 57) :
    (digits.map char).foldl (fun n c => n * 10 + digitValue c) n =
      digits.foldl (fun n d => n * 10 + (d.toNat - 48)) n := by
  induction digits generalizing n with
  | nil => rfl
  | cons d rest ih =>
      obtain ⟨first, others⟩ := List.forall_mem_cons.1 legal
      rw [List.map_cons, List.foldl_cons, List.foldl_cons, value_char d first, ih _ others]

theorem decimal_chars (digits : List UInt8) (index : UInt64) :
    decimal64? (digits.map char) = some index ↔
      digits ≠ [] ∧ (∀ d ∈ digits, 48 ≤ d.toNat ∧ d.toNat ≤ 57) ∧
        digits.foldl (fun n d => n * 10 + (d.toNat - 48)) 0 = index.toNat := by
  simp only [decimal64?_eq_some, ne_eq, List.map_eq_nil_iff, List.all_eq_true, List.forall_mem_map,
    digit_char]
  refine and_congr_right fun _ => and_congr_right fun legal => ?_
  rw [numeral, numeral_chars digits 0 legal]

theorem index_chars (bytes : List UInt8) (index : UInt64) :
    Client.index? (.ofList (bytes.map char)) = some index ↔ Writes bytes index.toNat := by
  rw [Client.index?, String.toList_ofList]
  by_cases plus : ∃ rest, bytes = 43 :: rest
  · obtain ⟨rest, rfl⟩ := plus
    rw [List.map_cons, (plus_char 43).2 rfl]
    change decimal64? (rest.map char) = some index ↔ _
    rw [decimal_chars]
    constructor
    · intro legal
      exact ⟨rest, .inr rfl, legal⟩
    · rintro ⟨digits, rfl | same, legal⟩
      · exact absurd (legal.2.1 43 List.mem_cons_self).1 (by decide)
      · cases same
        exact legal
  · have unsigned : ∀ digits, bytes.map char ≠ '+' :: digits := by
      intro digits same
      cases bytes with
      | nil => cases same
      | cons b rest =>
          rw [List.map_cons, List.cons.injEq, plus_char] at same
          exact plus ⟨rest, by rw [same.1]⟩
    split
    · rename_i digits same
      exact absurd same (unsigned digits)
    · rw [decimal_chars]
      constructor
      · intro legal
        exact ⟨bytes, .inl rfl, legal⟩
      · rintro ⟨digits, rfl | same, legal⟩
        · exact legal
        · exact absurd ⟨digits, same⟩ plus

theorem visible_written (bytes : List UInt8) (n : Nat) (written : Writes bytes n) :
    bytes.all Response.isVisible = true := by
  have digit : ∀ d : UInt8, 48 ≤ d.toNat ∧ d.toNat ≤ 57 → Response.isVisible d = true := by
    intro d legal
    simp only [Response.isVisible, Bool.or_eq_true, Bool.and_eq_true, decide_eq_true_eq,
      UInt8.le_iff_toNat_le, UInt8.lt_iff_toNat_lt]
    exact .inr ⟨Nat.le_trans (by decide) legal.1, Nat.lt_of_le_of_lt legal.2 (by decide)⟩
  obtain ⟨digits, rfl | rfl, _, legal, _⟩ := written
  · exact List.all_eq_true.2 fun d inside => digit d (legal d inside)
  · exact List.all_eq_true.2 fun d inside => by
      rcases List.mem_cons.1 inside with rfl | inside
      · decide
      · exact digit d (legal d inside)

theorem indexed_iff (r : Response) (index : UInt64) :
    (r.headerText? "X-Consul-Index").bind Client.index? = some index ↔ Indexed r index := by
  have text (bytes : List UInt8) :
      (if bytes.all Response.isVisible = true then some (String.ofList (bytes.map char))
        else none).bind Client.index? = some index ↔ Writes bytes index.toNat := by
    split
    · exact index_chars bytes index
    · rename_i hidden
      exact ⟨fun missing => by simp at missing,
        fun written => absurd (visible_written bytes _ written) hidden⟩
  rw [Response.headerText?, Option.bind_eq_bind, Option.bind_assoc, Option.bind_eq_some_iff]
  constructor
  · rintro ⟨bytes, found, written⟩
    obtain ⟨before, name, after, split, named, unnamed⟩ := (header_iff r _ bytes).1 found
    exact ⟨before, name, bytes, after, split, named, unnamed, (text bytes).1 written⟩
  · rintro ⟨before, name, bytes, after, split, named, unnamed, written⟩
    exact ⟨bytes, (header_iff r _ bytes).2 ⟨before, name, after, split, named, unnamed⟩,
      (text bytes).2 written⟩

theorem list?_eq_some {α : Type} (item? : Json → Option α) (j : Json) (found : List α) :
    j.list? item? = some found ↔
      ∃ items, j = .array items ∧ List.Forall₂ (fun item a => item? item = some a) items found := by
  cases j with
  | array items => simp [Json.list?, mapM_eq_some]
  | null | bool _ | number _ | otherNumber _ | string _ | brokenString | object _ | brokenObject =>
      simp [Json.list?]

theorem entries_of_decoded (items : List Json) (entries : List ServiceEntry) :
    List.Forall₂ (fun item entry => ∃ e, healthEntry? item = some e ∧ e.entry = entry)
        items entries ↔
      ∃ decoded, List.Forall₂ (fun item e => healthEntry? item = some e) items decoded ∧
        decoded.map HealthEntry.entry = entries := by
  constructor
  · intro each
    induction each with
    | nil => exact ⟨[], .nil, rfl⟩
    | cons one _ ih =>
        obtain ⟨e, found, rfl⟩ := one
        obtain ⟨decoded, others, rfl⟩ := ih
        exact ⟨e :: decoded, .cons found others, rfl⟩
  · rintro ⟨decoded, each, rfl⟩
    exact List.forall₂_map_right_iff.2 (each.imp fun item e found => ⟨e, found, rfl⟩)

theorem listed_iff (r : Response) (entries : List ServiceEntry) :
    (∃ decoded, r.body.bind healthEntries? = some decoded ∧
      decoded.map HealthEntry.entry = entries) ↔ Listed r entries := by
  simp only [Listed, entries_of_decoded, healthEntries?, Option.bind_eq_bind,
    Option.bind_eq_some_iff, list?_eq_some]
  grind

theorem read_health_unindexed (r : Response) (unindexed : ∀ index, ¬ Indexed r index) :
    ∃ failure, Client.readHealth r = .error failure ∧ failure.code = .pollDecodeFailed ∧
      failure.details = none := by
  have missing : (r.headerText? "X-Consul-Index").bind Client.index? = none :=
    Option.eq_none_iff_forall_ne_some.2 fun index found =>
      unindexed index ((indexed_iff r index).1 found)
  rw [Client.readHealth, missing]
  exact ⟨_, rfl, rfl, rfl⟩

theorem read_health_unlisted (r : Response) (index : UInt64) (indexed : Indexed r index)
    (unlisted : ∀ entries, ¬ Listed r entries) :
    ∃ failure, Client.readHealth r = .error failure ∧ failure.code = .pollDecodeFailed ∧
      ∃ cause, failure.details = some cause := by
  have unread : r.body.bind healthEntries? = none :=
    Option.eq_none_iff_forall_ne_some.2 fun decoded read =>
      unlisted _ ((listed_iff r _).1 ⟨decoded, read, rfl⟩)
  rw [Client.readHealth, (indexed_iff r index).2 indexed]
  simp only [unread]
  exact ⟨_, rfl, rfl, _, rfl⟩

section

variable {client : Client} {transport : Transport} {query : HealthQuery} {r : Response}

end

end ServiceDiscovery.Consul
