import ServiceDiscovery.Proofs.Text.Decimal
import ServiceDiscovery.Proofs.Url.Path

namespace ServiceDiscovery.Url

open Text

-- The standard form: four bytes in decimal, with dots between them.
def IsAddress (host : String) : Prop :=
  ∃ a b c d : UInt8, host = joinWith "." ([a, b, c, d].map fun byte => toString byte.toNat)

theorem split_on_char_plain (separator : Char) (s : List Char) (absent : separator ∉ s) :
    splitOnChar separator s = [s] := by
  induction s with
  | nil => rfl
  | cons c s ih =>
      rw [List.mem_cons, not_or] at absent
      rw [splitOnChar, if_neg fun same => absent.1 same.symm, ih absent.2]

theorem split_on_char_ne_nil (separator : Char) (s : List Char) : splitOnChar separator s ≠ [] := by
  cases s with
  | nil => exact List.cons_ne_nil _ _
  | cons c s =>
      rw [splitOnChar]
      split
      · exact List.cons_ne_nil _ _
      · split
        · exact List.cons_ne_nil _ _
        · exact List.cons_ne_nil _ _

theorem split_absent (separator : Char) (s : List Char) :
    ∀ part ∈ splitOnChar separator s, separator ∉ part := by
  intro part there
  induction s generalizing part with
  | nil =>
      rw [splitOnChar, List.mem_singleton] at there
      rw [there]
      exact List.not_mem_nil
  | cons c s ih =>
      rw [splitOnChar] at there
      split at there
      · rcases List.mem_cons.1 there with rfl | there
        · exact List.not_mem_nil
        · exact ih part there
      · rename_i other
        split at there
        · rw [List.mem_singleton.1 there, List.mem_singleton]
          exact Ne.symm other
        · rename_i first rest split
          rw [split] at ih
          rcases List.mem_cons.1 there with rfl | there
          · rw [List.mem_cons, not_or]
            exact ⟨Ne.symm other, ih first List.mem_cons_self⟩
          · exact ih part (List.mem_cons_of_mem _ there)

theorem split_on_char_intercalate (separator : Char) (part : List Char) (parts : List (List Char))
    (absent : ∀ p ∈ part :: parts, separator ∉ p) :
    splitOnChar separator ([separator].intercalate (part :: parts)) = part :: parts := by
  induction parts generalizing part with
  | nil =>
      rw [List.intercalate_singleton]
      exact split_on_char_plain separator part (absent part List.mem_cons_self)
  | cons next parts ih =>
      obtain ⟨first, others⟩ := List.forall_mem_cons.1 absent
      rw [List.intercalate_cons_cons, List.append_assoc, List.singleton_append,
        split_on_char_append separator part _ first, ih next others]

theorem intercalate_split (separator : Char) (s : List Char) :
    [separator].intercalate (splitOnChar separator s) = s := by
  induction s with
  | nil => rfl
  | cons c s ih =>
      rw [splitOnChar]
      cases parts : splitOnChar separator s with
      | nil => exact absurd parts (split_on_char_ne_nil separator s)
      | cons part parts' =>
          rw [parts] at ih
          by_cases same : c = separator
          · subst c
            rw [if_pos rfl, List.intercalate_cons_cons, ih]
            rfl
          · rw [if_neg same]
            cases parts' with
            | nil => simpa using ih
            | cons next rest =>
                simp only [List.intercalate_cons_cons] at ih ⊢
                rw [List.cons_append, List.cons_append, ih]

-- For any weights: those of an address are numbers too large to be unfolded.
theorem fold_weights (weight : Nat → Nat) (k a : Nat) (rest : List Nat) (last : Nat) :
    ((a :: rest).zipIdx k).foldl (fun n (byte, i) => n + byte * weight i) last =
      (rest.zipIdx (k + 1)).foldl (fun n (byte, i) => n + byte * weight i)
        (last + a * weight k) := rfl

section

variable (a b c d : UInt8)

def dotted : List Char :=
  ['.'].intercalate ([a, b, c, d].map fun byte => Nat.toDigits 10 byte.toNat)

theorem ipv4_number_byte (byte : UInt8) :
    ipv4Number? (Nat.toDigits 10 byte.toNat) = some byte.toNat := by
  have all : ∀ n < 256, ipv4Number? (Nat.toDigits 10 n) = some n := by decide +kernel
  exact all byte.toNat byte.toNat_lt

theorem dotted_parts_dotted :
    dottedParts (dotted a b c d) = [a, b, c, d].map fun byte => Nat.toDigits 10 byte.toNat := by
  have absent : ∀ part ∈ [a, b, c, d].map fun byte => Nat.toDigits 10 byte.toNat, '.' ∉ part := by
    intro part inside dot
    obtain ⟨byte, _, rfl⟩ := List.mem_map.1 inside
    exact absurd (ascii_digit_of_decimal byte.toNat '.' dot) (by decide)
  have split := split_on_char_intercalate '.' _ _ absent
  rw [dottedParts, dotted, List.map_cons, split]
  simp [Nat.toDigits_ne_nil]

theorem ipv4_dotted :
    ipv4? (dotted a b c d) =
      some (a.toNat * 2 ^ 24 + b.toNat * 2 ^ 16 + c.toNat * 2 ^ 8 + d.toNat) := by
  have first := a.toNat_lt
  have second := b.toNat_lt
  have third := c.toNat_lt
  have fourth := d.toNat_lt
  have numbers : (dottedParts (dotted a b c d)).mapM ipv4Number? =
      some [a.toNat, b.toNat, c.toNat, d.toNat] := by
    rw [dotted_parts_dotted]
    simp [ipv4_number_byte]
  have legal : ¬ (4 < [a.toNat, b.toNat, c.toNat, d.toNat].length ∨
      [a.toNat, b.toNat, c.toNat].any (255 < ·) = true ∨
      256 ^ (4 - [a.toNat, b.toNat, c.toNat].length) ≤ d.toNat) := by
    simp
    omega
  rw [ipv4?, numbers]
  simp only [Option.bind_eq_bind, Option.bind_some, List.getLast?_cons_cons,
    List.getLast?_singleton, List.dropLast_cons_cons, List.dropLast_singleton, if_neg legal,
    fold_weights fun i => 256 ^ (3 - i)]
  rw [List.zipIdx_nil, List.foldl_nil]
  refine congrArg some ?_
  omega

theorem to_list_address_text :
    (joinWith "." ([a, b, c, d].map fun byte => toString byte.toNat)).toList = dotted a b c d := by
  have digits (n : Nat) : (toString n).toList = Nat.toDigits 10 n := by
    rw [Nat.toString_eq_ofList_toDigits, String.toList_ofList]
  rw [joinWith, String.toList_intercalate, dotted, List.map_map]
  simp only [Function.comp_def, digits]
  rfl

theorem ipv4_text_bytes :
    ipv4Text (a.toNat * 2 ^ 24 + b.toNat * 2 ^ 16 + c.toNat * 2 ^ 8 + d.toNat) =
      joinWith "." ([a, b, c, d].map fun byte => toString byte.toNat) := by
  have second := b.toNat_lt
  have third := c.toNat_lt
  have fourth := d.toNat_lt
  generalize value : a.toNat * 2 ^ 24 + b.toNat * 2 ^ 16 + c.toNat * 2 ^ 8 + d.toNat = n
  have bytes : n / 2 ^ 24 = a.toNat ∧ n / 2 ^ 16 % 256 = b.toNat ∧ n / 2 ^ 8 % 256 = c.toNat ∧
      n % 256 = d.toNat := by omega
  rw [ipv4Text, bytes.1, bytes.2.1, bytes.2.2.1, bytes.2.2.2]
  rfl

end

theorem is_address_ipv4_text (n : Nat) (bound : n < 2 ^ 32) : IsAddress (ipv4Text n) := by
  have high : n / 2 ^ 24 < 2 ^ 8 := by omega
  refine ⟨.ofNat (n / 2 ^ 24), .ofNat (n / 2 ^ 16 % 256), .ofNat (n / 2 ^ 8 % 256),
    .ofNat (n % 256), ?_⟩
  rw [ipv4Text]
  simp [Nat.mod_eq_of_lt high]

theorem ipv4_bound (s : List Char) (n : Nat) (read : ipv4? s = some n) : n < 2 ^ 32 := by
  rw [ipv4?] at read
  simp only [Option.bind_eq_bind, Option.bind_eq_some_iff] at read
  obtain ⟨numbers, _, last, ends, read⟩ := read
  obtain ⟨first, rfl⟩ := List.getLast?_eq_some_iff.1 ends
  rw [List.dropLast_concat] at read
  split at read
  · cases read
  rename_i legal
  rw [not_or, not_or, List.length_append] at legal
  obtain ⟨short, small, room⟩ := legal
  cases read
  rcases first with _ | ⟨a, _ | ⟨b, _ | ⟨c, _ | ⟨d, more⟩⟩⟩⟩
  · simpa using room
  case cons.cons.cons.cons => simp at short
  all_goals
    simp at small room
    simp only [fold_weights fun i => 256 ^ (3 - i)]
    rw [List.zipIdx_nil, List.foldl_nil]
    omega

/-- A text that is read as an IPv4 address is written in its standard form, which is the text
itself just when it is in that form. -/
theorem address_kept_iff (host : String) :
    (ipv4? host.toList).map ipv4Text = some host ↔ IsAddress host := by
  constructor
  · intro kept
    obtain ⟨n, read, rfl⟩ := Option.map_eq_some_iff.1 kept
    exact is_address_ipv4_text n (ipv4_bound _ n read)
  · rintro ⟨a, b, c, d, rfl⟩
    rw [to_list_address_text, ipv4_dotted, Option.map_some, ipv4_text_bytes]

theorem address_run (host : String) (address : IsAddress host) : IsRun isHostChar host.toList := by
  obtain ⟨a, b, c, d, rfl⟩ := address
  rw [to_list_address_text, dotted]
  refine ⟨?_, List.all_eq_true.2 fun x inside => ?_⟩
  · rw [List.map_cons, List.map_cons, List.intercalate_cons_cons]
    simp
  · rcases mem_intercalate '.' x _ inside with rfl | ⟨part, there, inside⟩
    · rfl
    · obtain ⟨byte, _, rfl⟩ := List.mem_map.1 there
      exact host_char_digit x (ascii_digit_of_decimal byte.toNat x inside)

end ServiceDiscovery.Url
