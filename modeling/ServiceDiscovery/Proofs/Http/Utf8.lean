import Mathlib.Data.List.Infix
import ServiceDiscovery.Http.Charset

namespace ServiceDiscovery.Http.Charset

-- Some first bytes of a character, or all of them.
def Begins (piece : List UInt8) : Prop := ∃ c, piece <+: String.utf8EncodeChar c

-- The longest start of a character that does not go on as one, or else a single byte.
structure Malformed (piece rest : List UInt8) : Prop where
  started : piece.length = 1 ∨ piece ≠ [] ∧ Begins piece
  unfinished : ∀ c, String.utf8EncodeChar c ≠ piece
  stuck : ∀ next ∈ rest.head?, ¬ Begins (piece ++ [next])

-- The text of bytes, with one replacement for what is malformed.
inductive Utf8 : List UInt8 → List Char → Prop where
  | nil : Utf8 [] []
  | char (c : Char) {rest : List UInt8} {text : List Char} (follows : Utf8 rest text) :
      Utf8 (String.utf8EncodeChar c ++ rest) (c :: text)
  | malformed (piece : List UInt8) {rest : List UInt8} {text : List Char}
      (malformed : Malformed piece rest) (follows : Utf8 rest text) :
      Utf8 (piece ++ rest) ('\ufffd' :: text)

theorem begins_of_start {piece longer : List UInt8} (short : piece <+: longer)
    (begins : Begins longer) : Begins piece := by
  obtain ⟨c, starts⟩ := begins
  exact ⟨c, short.trans starts⟩

theorem encoded_apart {c d : Char} (starts : String.utf8EncodeChar c <+: String.utf8EncodeChar d) :
    c = d := by
  obtain ⟨more, same⟩ := starts
  have first := ByteArray.utf8DecodeChar?_utf8EncodeChar_append (b := more.toByteArray) (c := c)
  have whole := ByteArray.utf8DecodeChar?_utf8EncodeChar_append (b := [].toByteArray) (c := d)
  rw [← List.toByteArray_append, same] at first
  rw [← List.toByteArray_append, List.append_nil] at whole
  exact Option.some.inj (first.symm.trans whole)

theorem Malformed.some_byte {piece rest : List UInt8} (malformed : Malformed piece rest) :
    0 < piece.length := by
  rcases malformed.started with single | ⟨some_byte, _⟩
  · exact single ▸ Nat.one_pos
  · exact List.length_pos_iff.2 some_byte

theorem encoded_some_byte (c : Char) : 0 < (String.utf8EncodeChar c).length :=
  List.length_pos_iff.2 String.utf8EncodeChar_ne_nil

theorem Malformed.longest {piece more rest : List UInt8}
    (malformed : Malformed piece (more ++ rest)) (begins : Begins (piece ++ more)) : more = [] := by
  cases more with
  | nil => rfl
  | cons next others =>
      refine absurd (begins_of_start ?_ begins) (malformed.stuck next rfl)
      exact (List.prefix_append_right_inj piece).2 ⟨others, rfl⟩

theorem character_unmalformed {c : Char} {piece rest others : List UInt8}
    (malformed : Malformed piece others) : String.utf8EncodeChar c ++ rest ≠ piece ++ others := by
  intro same
  rcases List.append_eq_append_iff.1 same with ⟨more, whole, _⟩ | ⟨more, whole, rfl⟩
  · have length := congrArg List.length whole
    rw [List.length_append] at length
    have none : more = [] := by
      refine List.eq_nil_of_length_eq_zero ?_
      rcases malformed.started with single | ⟨_, d, starts⟩
      · have some_byte := encoded_some_byte c
        omega
      · cases encoded_apart ((List.prefix_append _ more).trans (whole ▸ starts))
        have short := starts.length_le
        omega
    rw [none, List.append_nil] at whole
    exact malformed.unfinished c whole.symm
  · have none := malformed.longest (whole ▸ ⟨c, List.prefix_refl _⟩)
    rw [none, List.append_nil] at whole
    exact malformed.unfinished c whole

theorem malformed_shortest {piece longer rest others more : List UInt8}
    (malformed : Malformed piece rest) (other : Malformed longer others)
    (longer_by : longer = piece ++ more) (shorter_by : rest = more ++ others) : more = [] := by
  subst longer_by shorter_by
  rcases other.started with single | ⟨_, begins⟩
  · have some_byte := malformed.some_byte
    rw [List.length_append] at single
    exact List.eq_nil_of_length_eq_zero (by omega)
  · exact malformed.longest begins

theorem malformed_unique {piece other rest others : List UInt8} (one : Malformed piece rest)
    (two : Malformed other others) (same : piece ++ rest = other ++ others) :
    rest = others := by
  rcases List.append_eq_append_iff.1 same with ⟨more, longer, rest⟩ | ⟨more, longer, rest⟩
  · rw [rest, malformed_shortest one two longer rest, List.nil_append]
  · rw [rest, malformed_shortest two one longer rest, List.nil_append]

theorem utf8_unique {bytes : List UInt8} {text other : List Char} (one : Utf8 bytes text)
    (two : Utf8 bytes other) : text = other := by
  induction one generalizing other with
  | nil =>
      generalize same : [] = bytes at two
      cases two with
      | nil => rfl
      | char c follows => simp at same
      | malformed piece malformed follows =>
          obtain ⟨rfl, rfl⟩ := List.append_eq_nil_iff.1 same.symm
          cases malformed.some_byte
  | @char c rest text follows ih =>
      generalize same : String.utf8EncodeChar c ++ rest = bytes at two
      cases two with
      | nil => simp at same
      | char d others =>
          have alike : c = d := by
            rcases List.append_eq_append_iff.1 same with ⟨more, longer, _⟩ | ⟨more, longer, _⟩
            · exact encoded_apart ⟨more, longer.symm⟩
            · exact (encoded_apart ⟨more, longer.symm⟩).symm
          subst alike
          rw [List.append_cancel_left same] at ih
          rw [ih others]
      | malformed piece malformed others => exact absurd same (character_unmalformed malformed)
  | @malformed piece rest text malformed follows ih =>
      generalize same : piece ++ rest = bytes at two
      cases two with
      | nil =>
          obtain ⟨rfl, rfl⟩ := List.append_eq_nil_iff.1 same
          cases malformed.some_byte
      | char d others => exact absurd same.symm (character_unmalformed malformed)
      | malformed longer other others =>
          rw [malformed_unique malformed other same] at ih
          rw [ih others]

theorem encode_one (c : Char) (a : UInt8) :
    String.utf8EncodeChar c = [a] ↔ a.toNat < 0x80 ∧ c.toNat = a.toNat := by
  have valid := c.valid
  simp only [String.utf8EncodeChar, UInt32.isValidChar, Nat.isValidChar] at valid ⊢
  change _ ↔ _ ∧ c.val.toNat = _
  split_ifs <;> simp only [List.cons.injEq, and_true, and_false, reduceCtorEq, ← UInt8.toNat_inj,
    UInt8.toNat_ofNat', false_iff, not_and] <;> omega

theorem encode_two (c : Char) (a b : UInt8) :
    String.utf8EncodeChar c = [a, b] ↔
      (0xC2 ≤ a.toNat ∧ a.toNat ≤ 0xDF) ∧ (0x80 ≤ b.toNat ∧ b.toNat ≤ 0xBF) ∧
        c.toNat = a.toNat % 32 * 64 + b.toNat % 64 := by
  have valid := c.valid
  simp only [String.utf8EncodeChar, UInt32.isValidChar, Nat.isValidChar] at valid ⊢
  change _ ↔ _ ∧ _ ∧ c.val.toNat = _
  split_ifs <;> simp only [List.cons.injEq, and_true, and_false, reduceCtorEq, ← UInt8.toNat_inj,
    UInt8.toNat_ofNat', false_iff, not_and] <;> omega

theorem encode_three (c : Char) (a b d : UInt8) :
    String.utf8EncodeChar c = [a, b, d] ↔
      (0xE0 ≤ a.toNat ∧ a.toNat ≤ 0xEF) ∧
        ((0x80 ≤ b.toNat ∧ b.toNat ≤ 0xBF) ∧ (a.toNat = 0xE0 → 0xA0 ≤ b.toNat) ∧
          (a.toNat = 0xED → b.toNat ≤ 0x9F)) ∧
        (0x80 ≤ d.toNat ∧ d.toNat ≤ 0xBF) ∧
        c.toNat = (a.toNat % 16 * 64 + b.toNat % 64) * 64 + d.toNat % 64 := by
  have valid := c.valid
  simp only [String.utf8EncodeChar, UInt32.isValidChar, Nat.isValidChar] at valid ⊢
  change _ ↔ _ ∧ _ ∧ _ ∧ c.val.toNat = _
  split_ifs <;> simp only [List.cons.injEq, and_true, and_false, reduceCtorEq, ← UInt8.toNat_inj,
    UInt8.toNat_ofNat', false_iff, not_and] <;> omega

theorem encode_four (c : Char) (a b d e : UInt8) :
    String.utf8EncodeChar c = [a, b, d, e] ↔
      (0xF0 ≤ a.toNat ∧ a.toNat ≤ 0xF4) ∧
        ((0x80 ≤ b.toNat ∧ b.toNat ≤ 0xBF) ∧ (a.toNat = 0xF0 → 0x90 ≤ b.toNat) ∧
          (a.toNat = 0xF4 → b.toNat ≤ 0x8F)) ∧
        (0x80 ≤ d.toNat ∧ d.toNat ≤ 0xBF) ∧ (0x80 ≤ e.toNat ∧ e.toNat ≤ 0xBF) ∧
        c.toNat =
          ((a.toNat % 8 * 64 + b.toNat % 64) * 64 + d.toNat % 64) * 64 + e.toNat % 64 := by
  have valid := c.valid
  simp only [String.utf8EncodeChar, UInt32.isValidChar, Nat.isValidChar] at valid ⊢
  change _ ↔ _ ∧ _ ∧ _ ∧ _ ∧ c.val.toNat = _
  split_ifs <;> simp only [List.cons.injEq, and_true, and_false, reduceCtorEq, ← UInt8.toNat_inj,
    UInt8.toNat_ofNat', false_iff, not_and] <;> omega

theorem encode_long (c : Char) (a b d e f : UInt8) (rest : List UInt8) :
    String.utf8EncodeChar c ≠ a :: b :: d :: e :: f :: rest := by
  intro same
  have long : (String.utf8EncodeChar c).length = rest.length + 5 := by
    rw [same]
    rfl
  have short := c.utf8Size_le_four
  rw [String.length_utf8EncodeChar] at long
  omega

theorem lead_rows (b : UInt8) (due low high : Nat) (lead : utf8Lead? b = some (due, low, high)) :
    (due = 1 ∧ (0xC2 ≤ b.toNat ∧ b.toNat ≤ 0xDF) ∧ low = 0x80 ∧ high = 0xBF) ∨
    (due = 2 ∧ (0xE0 ≤ b.toNat ∧ b.toNat ≤ 0xEF) ∧
      (b.toNat = 0xE0 ∧ low = 0xA0 ∨ b.toNat ≠ 0xE0 ∧ low = 0x80) ∧
      (b.toNat = 0xED ∧ high = 0x9F ∨ b.toNat ≠ 0xED ∧ high = 0xBF)) ∨
    (due = 3 ∧ (0xF0 ≤ b.toNat ∧ b.toNat ≤ 0xF4) ∧
      (b.toNat = 0xF0 ∧ low = 0x90 ∨ b.toNat ≠ 0xF0 ∧ low = 0x80) ∧
      (b.toNat = 0xF4 ∧ high = 0x8F ∨ b.toNat ≠ 0xF4 ∧ high = 0xBF)) := by
  simp only [utf8Lead?] at lead
  split_ifs at lead <;> simp only [Option.some.injEq, Prod.mk.injEq] at lead <;> omega

def Continues : Nat → Nat → Nat → List UInt8 → Prop
  | due, _, _, [] => due = 0
  | due, low, high, b :: rest =>
      0 < due ∧ (low ≤ b.toNat ∧ b.toNat ≤ high) ∧ Continues (due - 1) 0x80 0xBF rest

def joined (value : Nat) (b : UInt8) : Nat := value * 64 + b.toNat % 64

-- What is pending after some first bytes says how they go on as a character, and as which one.
structure Held (piece : List UInt8) (p : Pending) : Prop where
  due : 0 < p.due
  bounds : p.low ≤ p.high ∧ p.high ≤ 0xBF
  legal : ∀ tail, Continues p.due p.low p.high tail → (tail.foldl joined p.value).isValidChar
  spelled : ∀ c tail, String.utf8EncodeChar c = piece ++ tail ↔
    Continues p.due p.low p.high tail ∧ c.toNat = tail.foldl joined p.value

theorem held_of_lead (b : UInt8) (due low high : Nat) (lead : utf8Lead? b = some (due, low, high)) :
    Held [b] ⟨b.toNat % 2 ^ (6 - due), due, low, high⟩ := by
  obtain ⟨rfl, row⟩ | ⟨rfl, row⟩ | ⟨rfl, row⟩ := lead_rows b due low high lead
  all_goals
    refine ⟨by simp, by dsimp only; omega, fun tail legal => ?_, fun c tail => ?_⟩
    · rcases tail with _ | ⟨t, _ | ⟨u, _ | ⟨v, _ | ⟨w, rest⟩⟩⟩⟩ <;>
        simp only [Continues, List.foldl, joined, and_true, Nat.isValidChar] at legal ⊢ <;> omega
    · rcases tail with _ | ⟨t, _ | ⟨u, _ | ⟨v, _ | ⟨w, rest⟩⟩⟩⟩ <;>
        simp only [List.cons_append, List.nil_append, encode_one, encode_two, encode_three,
          encode_four, encode_long, Continues, List.foldl, joined, and_true, false_iff, not_and] <;>
        omega

theorem unstarted (b : UInt8) (high : ¬ b.toNat < 0x80) (lead : utf8Lead? b = none) :
    ¬ Begins [b] := by
  have outside : b.toNat < 0xC2 ∨ 0xF4 < b.toNat := by
    simp only [utf8Lead?] at lead
    split_ifs at lead
    omega
  rintro ⟨c, tail, same⟩
  rcases tail with _ | ⟨t, _ | ⟨u, _ | ⟨v, _ | ⟨w, rest⟩⟩⟩⟩ <;>
    simp only [List.cons_append, List.nil_append, @eq_comm _ _ (String.utf8EncodeChar c),
      encode_one, encode_two, encode_three, encode_four, encode_long] at same <;>
    omega

section

variable {piece : List UInt8} {p : Pending}

theorem Held.character (held : Held piece p) {tail : List UInt8}
    (continues : Continues p.due p.low p.high tail) :
    String.utf8EncodeChar (Char.ofNat (tail.foldl joined p.value)) = piece ++ tail := by
  refine (held.spelled _ tail).2 ⟨continues, ?_⟩
  rw [Char.ofNat, dif_pos (held.legal tail continues)]
  rfl

theorem Held.next (held : Held piece p) {b : UInt8} (more : p.due ≠ 1)
    (within : p.low ≤ b.toNat ∧ b.toNat ≤ p.high) :
    Held (piece ++ [b]) ⟨joined p.value b, p.due - 1, 0x80, 0xBF⟩ := by
  have due := held.due
  refine ⟨by dsimp only; omega, by dsimp only; omega, fun tail continues => ?_, fun c tail => ?_⟩
  · exact held.legal (b :: tail) ⟨due, within, continues⟩
  · rw [List.append_assoc]
    refine (held.spelled c (b :: tail)).trans (and_congr_left' ?_)
    exact ⟨fun ⟨_, _, continues⟩ => continues, fun continues => ⟨due, within, continues⟩⟩

theorem continues_lowest (due : Nat) : Continues due 0x80 0xBF (List.replicate due 0x80) := by
  induction due with
  | zero => rfl
  | succ due ih => exact ⟨Nat.succ_pos due, by decide, ih⟩

theorem Held.begins_iff (held : Held piece p) (b : UInt8) :
    Begins (piece ++ [b]) ↔ p.low ≤ b.toNat ∧ b.toNat ≤ p.high := by
  constructor
  · rintro ⟨c, tail, same⟩
    rw [List.append_assoc] at same
    obtain ⟨⟨_, within, _⟩, _⟩ := (held.spelled c _).1 same.symm
    exact within
  · intro within
    have lowest : Continues p.due p.low p.high (b :: List.replicate (p.due - 1) 0x80) :=
      ⟨held.due, within, continues_lowest _⟩
    exact ⟨_, _, by rw [held.character lowest, List.append_assoc]; rfl⟩

theorem Held.begins (held : Held piece p) : Begins piece := by
  have least : (UInt8.ofNat p.low).toNat = p.low := by
    rw [UInt8.toNat_ofNat', Nat.mod_eq_of_lt]
    have bounds := held.bounds
    omega
  refine begins_of_start (List.prefix_append piece [.ofNat p.low]) ((held.begins_iff _).2 ?_)
  rw [least]
  exact ⟨Nat.le_refl _, held.bounds.1⟩

theorem Held.unfinished (held : Held piece p) (c : Char) : String.utf8EncodeChar c ≠ piece := by
  intro same
  rw [← List.append_nil piece] at same
  exact Nat.ne_of_gt held.due ((held.spelled c []).1 same).1

end

theorem start_ascii (b : UInt8) (low : b.toNat < 0x80) :
    startUtf8 ['\ufffd'] b = ([Char.ofNat b.toNat], none) ∧
      String.utf8EncodeChar (Char.ofNat b.toNat) = [b] := by
  refine ⟨if_pos low, (encode_one _ b).2 ⟨low, ?_⟩⟩
  rw [Char.ofNat, dif_pos (.inl (by omega))]
  rfl

section

variable {b : UInt8} {rest : List UInt8} (plain : Utf8 rest (decodeUtf8 rest))

include plain

theorem utf8_cons (pending : ∀ p, Held [b] p →
      Utf8 (b :: rest) (decodeUtf8From ['\ufffd'] (some p) rest)) :
    Utf8 (b :: rest) (decodeUtf8 (b :: rest)) := by
  have split : decodeUtf8 (b :: rest) =
      (startUtf8 ['\ufffd'] b).1 ++ decodeUtf8From ['\ufffd'] (startUtf8 ['\ufffd'] b).2 rest := rfl
  rw [split]
  by_cases low : b.toNat < 0x80
  · obtain ⟨start, encoded⟩ := start_ascii b low
    have single := Utf8.char (Char.ofNat b.toNat) plain
    rw [encoded] at single
    rw [start]
    exact single
  · cases lead : utf8Lead? b with
    | some row =>
        obtain ⟨due, least, most⟩ := row
        have start : startUtf8 ['\ufffd'] b =
            ([], some ⟨b.toNat % 2 ^ (6 - due), due, least, most⟩) := by
          rw [startUtf8, if_neg low, lead]
        rw [start]
        exact pending _ (held_of_lead b due least most lead)
    | none =>
        have never := unstarted b low lead
        have start : startUtf8 ['\ufffd'] b = (['\ufffd'], none) := by
          rw [startUtf8, if_neg low, lead]
        rw [start]
        refine .malformed [b] ⟨.inl rfl, fun c same => never ⟨c, ?_⟩, fun next _ begins => ?_⟩ plain
        · rw [same]
        · exact never (begins_of_start (List.prefix_append [b] [next]) begins)

theorem utf8_held {piece : List UInt8} {p : Pending} (held : Held piece p) (some_byte : piece ≠ [])
    (whole : Utf8 (b :: rest) (decodeUtf8 (b :: rest)))
    (pending : ∀ p, Held (piece ++ [b]) p →
      Utf8 (piece ++ [b] ++ rest) (decodeUtf8From ['\ufffd'] (some p) rest)) :
    Utf8 (piece ++ b :: rest) (decodeUtf8From ['\ufffd'] (some p) (b :: rest)) := by
  by_cases within : p.low ≤ b.toNat ∧ b.toNat ≤ p.high
  · rw [List.append_cons, decodeUtf8From, if_pos within]
    by_cases last : p.due = 1
    · have finished : Continues p.due p.low p.high [b] := ⟨held.due, within, by rw [last]; rfl⟩
      have encoded : String.utf8EncodeChar (Char.ofNat (joined p.value b)) = piece ++ [b] :=
        held.character finished
      rw [if_pos last, ← encoded]
      exact .char _ plain
    · rw [if_neg last]
      exact pending _ (held.next last within)
  · rw [decodeUtf8From, if_neg within]
    refine .malformed piece ⟨.inr ⟨some_byte, held.begins⟩, held.unfinished, ?_⟩ whole
    intro next first
    cases first
    exact fun begins => within ((held.begins_iff b).1 begins)

end

theorem utf8_decoded_from (bytes : List UInt8) :
    Utf8 bytes (decodeUtf8 bytes) ∧
      ∀ piece p, Held piece p → piece ≠ [] →
        Utf8 (piece ++ bytes) (decodeUtf8From ['\ufffd'] (some p) bytes) := by
  induction bytes with
  | nil =>
      refine ⟨.nil, fun piece p held some_byte => ?_⟩
      exact .malformed piece
        ⟨.inr ⟨some_byte, held.begins⟩, held.unfinished, fun _ none => by cases none⟩ .nil
  | cons b rest ih =>
      obtain ⟨plain, pending⟩ := ih
      have whole := utf8_cons plain fun p held => pending [b] p held (List.cons_ne_nil b [])
      refine ⟨whole, fun piece p held some_byte => ?_⟩
      exact utf8_held plain held some_byte whole fun p held =>
        pending (piece ++ [b]) p held (by simp)

theorem utf8_iff (bytes : List UInt8) (text : List Char) :
    Utf8 bytes text ↔ decodeUtf8 bytes = text := by
  obtain ⟨decoded, _⟩ := utf8_decoded_from bytes
  constructor
  · exact utf8_unique decoded
  · rintro rfl
    exact decoded

end ServiceDiscovery.Http.Charset
