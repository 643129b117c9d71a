import ServiceDiscovery.Proofs.Text.Separator
import ServiceDiscovery.Url.Percent

namespace ServiceDiscovery.Url

open Text

def utf8 (s : List Char) : List UInt8 := s.flatMap String.utf8EncodeChar

def digitPair : List Char → Bool
  | a :: b :: _ => isHexDigit a && isHexDigit b
  | _ => false

def hasEscape : List Char → Bool
  | [] => false
  | c :: rest => (c == '%' && digitPair rest) || hasEscape rest

structure KeepsEscapes (escapes : Char → Bool) : Prop where
  mark : escapes '%' = false
  digit : ∀ c, isHexDigit c = true → escapes c = false

theorem utf8_cons (c : Char) (s : List Char) : utf8 (c :: s) = String.utf8EncodeChar c ++ utf8 s :=
  List.flatMap_cons

theorem length_utf8_cons (c : Char) (s : List Char) :
    (utf8 (c :: s)).length = c.utf8Size + (utf8 s).length := by
  rw [utf8_cons, List.length_append, String.length_utf8EncodeChar]

theorem upper_hex (n : Nat) (digit : n < 16) :
    isHexDigit (upperHex n) = true ∧ digitValue (upperHex n) = n := by
  have all : ∀ n < 16, isHexDigit (upperHex n) = true ∧ digitValue (upperHex n) = n := by decide
  exact all n digit

theorem digit_pair_other (c : Char) (rest : List Char) (other : isHexDigit c = false) :
    digitPair (c :: rest) = false := by
  cases rest with
  | nil => rfl
  | cons b rest => rw [digitPair, other, Bool.false_and]

theorem decode_bytes_escape (a b : Char) (rest : List Char)
    (escaped : digitPair (a :: b :: rest) = true) :
    decodeBytes ('%' :: a :: b :: rest) =
      UInt8.ofNat (digitValue a * 16 + digitValue b) :: decodeBytes rest := by
  rw [decodeBytes, if_pos (by simpa [digitPair] using escaped)]

theorem decode_bytes_cons (c : Char) (rest : List Char)
    (unescaped : c = '%' → digitPair rest = false) :
    decodeBytes (c :: rest) = String.utf8EncodeChar c ++ decodeBytes rest := by
  rw [decodeBytes.eq_def]
  split
  · rename_i same
    cases same
  · rename_i a b after same
    cases same
    rw [if_neg (by simpa [digitPair] using unescaped rfl)]
    rfl
  · rename_i same
    cases same
    rfl

-- A text is empty, or starts with an escape, or with a character that stands for itself.
@[elab_as_elim]
theorem escape_induction {motive : List Char → Prop} (s : List Char) (nil : motive [])
    (escape : ∀ a b rest, digitPair (a :: b :: rest) = true → motive rest →
      motive ('%' :: a :: b :: rest))
    (plain : ∀ c rest, (c = '%' → digitPair rest = false) → motive rest → motive (c :: rest)) :
    motive s := by
  induction s using decodeBytes.induct with
  | case1 => exact nil
  | case2 a b rest pair ih => exact escape a b rest (by simpa [digitPair] using pair) ih
  | case3 a b rest other ih => exact plain '%' _ (fun _ => by simpa [digitPair] using other) ih
  | case4 c rest other ih =>
      refine plain c rest (fun mark => ?_) ih
      match rest with
      | [] => rfl
      | [_] => rfl
      | a :: b :: after => exact absurd rfl (other a b after mark)

theorem decode_bytes_encode_byte (b : UInt8) (rest : List Char) :
    decodeBytes (encodeByte b ++ rest) = b :: decodeBytes rest := by
  have bound := b.toNat_lt
  obtain ⟨high, highValue⟩ := upper_hex (b.toNat / 16) (by omega)
  obtain ⟨low, lowValue⟩ := upper_hex (b.toNat % 16) (by omega)
  have value : b.toNat / 16 * 16 + b.toNat % 16 = b.toNat := by omega
  have escaped := decode_bytes_escape (upperHex (b.toNat / 16)) (upperHex (b.toNat % 16)) rest
    (by rw [digitPair, high, low, Bool.and_true])
  rw [highValue, lowValue, value, UInt8.ofNat_toNat] at escaped
  exact escaped

theorem decode_bytes_encode_char (c : Char) (rest : List Char) :
    decodeBytes (encodeChar c ++ rest) = String.utf8EncodeChar c ++ decodeBytes rest := by
  rw [encodeChar]
  generalize String.utf8EncodeChar c = bytes
  induction bytes with
  | nil => rfl
  | cons b bytes ih =>
      rw [List.flatMap_cons, List.append_assoc, decode_bytes_encode_byte, ih, List.cons_append]

theorem encode_chars_cons (escapes : Char → Bool) (c : Char) (s : List Char) :
    encodeChars escapes (c :: s) =
      (if escapes c then encodeChar c else [c]) ++ encodeChars escapes s := List.flatMap_cons

theorem encode_char_mark (c : Char) : ∃ rest, encodeChar c = '%' :: rest := by
  rw [encodeChar]
  cases bytes : String.utf8EncodeChar c with
  | nil =>
      have size := String.length_utf8EncodeChar c
      rw [bytes] at size
      exact absurd size (Nat.ne_of_lt c.utf8Size_pos)
  | cons b rest => exact ⟨_, rfl⟩

section

variable {escapes : Char → Bool}

theorem not_digit_of_escaped (keeps : KeepsEscapes escapes) (c : Char)
    (escaped : escapes c = true) : isHexDigit c = false := by
  cases digit : isHexDigit c with
  | false => rfl
  | true => cases escaped.symm.trans (keeps.digit c digit)

theorem digit_pair_encode (keeps : KeepsEscapes escapes) (s : List Char) :
    digitPair (encodeChars escapes s) = digitPair s := by
  cases s with
  | nil => rfl
  | cons a s =>
      rw [encode_chars_cons]
      by_cases first : escapes a = true
      · obtain ⟨marked, same⟩ := encode_char_mark a
        rw [if_pos first, same, List.cons_append, digit_pair_other '%' _ rfl,
          digit_pair_other a s (not_digit_of_escaped keeps a first)]
      · rw [if_neg first]
        cases s with
        | nil => rfl
        | cons b s =>
            rw [encode_chars_cons]
            by_cases second : escapes b = true
            · obtain ⟨marked, same⟩ := encode_char_mark b
              have other := not_digit_of_escaped keeps b second
              rw [if_pos second, same]
              simp only [List.cons_append, List.nil_append, digitPair, other, Bool.and_false,
                Bool.and_eq_false_imp]
              exact fun _ => rfl
            · rw [if_neg second]
              rfl

theorem encode_chars_cons_kept (c : Char) (s : List Char) (kept : escapes c = false) :
    encodeChars escapes (c :: s) = c :: encodeChars escapes s := by
  rw [encode_chars_cons, kept]
  rfl

theorem decode_bytes_encode_chars (keeps : KeepsEscapes escapes) (s : List Char) :
    decodeBytes (encodeChars escapes s) = decodeBytes s := by
  induction s using escape_induction with
  | nil => rfl
  | escape a b rest pair ih =>
      have digits : isHexDigit a = true ∧ isHexDigit b = true := by simpa [digitPair] using pair
      have after : digitPair (a :: b :: encodeChars escapes rest) = true := pair
      rw [encode_chars_cons_kept _ _ keeps.mark,
        encode_chars_cons_kept _ _ (keeps.digit a digits.1),
        encode_chars_cons_kept _ _ (keeps.digit b digits.2), decode_bytes_escape a b _ after, ih,
        decode_bytes_escape a b rest pair]
  | plain c rest unescaped ih =>
      rw [decode_bytes_cons c rest unescaped]
      cases escaped : escapes c with
      | true =>
          rw [encode_chars_cons, if_pos escaped, decode_bytes_encode_char, ih]
      | false =>
          have after (mark : c = '%') : digitPair (encodeChars escapes rest) = false := by
            rw [digit_pair_encode keeps, unescaped mark]
          rw [encode_chars_cons_kept c rest escaped, decode_bytes_cons c _ after, ih]

end

theorem decode_bytes_plain (s : List Char) (plain : hasEscape s = false) :
    decodeBytes s = utf8 s := by
  induction s with
  | nil => rw [decodeBytes, utf8, List.flatMap_nil]
  | cons c rest ih =>
      obtain ⟨first, after⟩ := Bool.or_eq_false_iff.1 plain
      rw [decode_bytes_cons c rest (fun mark => by simpa [mark] using first), ih after, utf8_cons]

theorem length_decode_bytes (s : List Char) :
    (decodeBytes s).length + (if hasEscape s then 1 else 0) ≤ (utf8 s).length := by
  induction s using escape_induction with
  | nil => simp [decodeBytes, hasEscape]
  | escape a b rest pair ih =>
      have first := a.utf8Size_pos
      have second := b.utf8Size_pos
      rw [decode_bytes_escape a b rest pair, List.length_cons]
      simp only [length_utf8_cons]
      split <;> omega
  | plain c rest unescaped ih =>
      have same : hasEscape (c :: rest) = hasEscape rest := by
        rw [hasEscape]
        by_cases mark : c = '%'
        · rw [unescaped mark, Bool.and_false, Bool.false_or]
        · rw [beq_false_of_ne mark, Bool.false_and, Bool.false_or]
      rw [decode_bytes_cons c rest unescaped, same, List.length_append, length_utf8_cons,
        String.length_utf8EncodeChar]
      omega

theorem length_utf8_sublist {part s : List Char} (within : part.Sublist s) :
    (utf8 part).length ≤ (utf8 s).length := by
  induction within with
  | slnil => exact Nat.le_refl _
  | cons c _ ih =>
      rw [length_utf8_cons]
      omega
  | cons_cons c _ ih =>
      simp only [length_utf8_cons]
      omega

theorem eq_of_length_utf8 {part s : List Char} (within : part.Sublist s)
    (full : (utf8 s).length ≤ (utf8 part).length) : part = s := by
  induction within with
  | slnil => rfl
  | cons c within ih =>
      have smaller := length_utf8_sublist within
      have size := c.utf8Size_pos
      rw [length_utf8_cons] at full
      omega
  | cons_cons c within ih =>
      simp only [length_utf8_cons] at full
      rw [ih (by omega)]

theorem utf8_to_list (text : String) :
    (⟨(utf8 text.toList).toArray⟩ : ByteArray) = text.toByteArray := by
  rw [← String.utf8Encode_toList]
  refine ByteArray.ext (Array.toList_inj.1 ?_)
  rw [List.utf8Encode, List.toList_data_toByteArray]
  rfl

theorem decoded_iff (s : List Char) (text : String) :
    decoded? s = some text ↔ decodeBytes s = utf8 text.toList := by
  rw [decoded?, String.fromUTF8?]
  constructor
  · intro read
    split at read
    · have bytes := congrArg String.toByteArray (Option.some.inj read)
      have same := bytes.trans (utf8_to_list text).symm
      exact Array.toList_inj.2 (congrArg ByteArray.data same)
    · cases read
  · intro same
    rw [same, utf8_to_list, dif_pos text.isValidUTF8]
    rfl

-- Of the parts of a text, only the whole can stand for the text, and only without an escape.
theorem decoded_part_iff {escapes : Char → Bool} (keeps : KeepsEscapes escapes)
    {part : List Char} {text : String} (within : part.Sublist text.toList) :
    decoded? (encodeChars escapes part) = some text ↔
      part = text.toList ∧ hasEscape text.toList = false := by
  rw [decoded_iff, decode_bytes_encode_chars keeps]
  constructor
  · intro same
    have bound := length_decode_bytes part
    rw [same] at bound
    obtain rfl := eq_of_length_utf8 within (by omega)
    refine ⟨rfl, ?_⟩
    cases escaped : hasEscape text.toList with
    | false => rfl
    | true =>
        rw [escaped, if_pos rfl] at bound
        omega
  · rintro ⟨rfl, plain⟩
    exact decode_bytes_plain _ plain

theorem forall_ascii {p : Char → Prop} (all : ∀ n < 128, p (Char.ofNat n)) (c : Char)
    (ascii : c.toNat < 128) : p c := by
  have instanceOf := all c.toNat ascii
  rwa [Char.ofNat_toNat] at instanceOf

theorem ascii_of_hex_digit (c : Char) (digit : isHexDigit c = true) : c.toNat < 128 := by
  rw [isHexDigit, Bool.or_eq_true, Bool.or_eq_true] at digit
  rcases digit with (decimal | small) | capital
  · exact ascii_of_digit decimal
  · exact ascii_of_range (by decide) small
  · exact ascii_of_range (by decide) capital

theorem keeps_escapes_path : KeepsEscapes escapesPath where
  mark := by decide
  digit c digit := by
    refine forall_ascii (p := fun c => isHexDigit c = true → escapesPath c = false) ?_ c
      (ascii_of_hex_digit c digit) digit
    decide

theorem mem_encode_char {x c : Char} (mem : x ∈ encodeChar c) : x = '%' ∨ isHexDigit x = true := by
  simp only [encodeChar, List.mem_flatMap] at mem
  obtain ⟨b, -, mem⟩ := mem
  have bound := b.toNat_lt
  have high := upper_hex (b.toNat / 16) (by omega)
  have low := upper_hex (b.toNat % 16) (by omega)
  simp only [encodeByte, List.mem_cons, List.not_mem_nil, or_false] at mem
  rcases mem with rfl | rfl | rfl
  · exact .inl rfl
  · exact .inr high.1
  · exact .inr low.1

theorem mem_encode_chars {escapes : Char → Bool} {x : Char} {s : List Char}
    (mem : x ∈ encodeChars escapes s) :
    x = '%' ∨ isHexDigit x = true ∨ x ∈ s ∧ escapes x = false := by
  simp only [encodeChars, List.mem_flatMap] at mem
  obtain ⟨c, inside, mem⟩ := mem
  by_cases escaped : escapes c = true
  · rw [if_pos escaped] at mem
    exact (mem_encode_char mem).imp_right .inl
  · rw [if_neg escaped, List.mem_singleton] at mem
    subst mem
    exact .inr (.inr ⟨inside, Bool.eq_false_iff.2 escaped⟩)

def isFormMark (c : Char) : Bool :=
  isFormChar c || c == '+' || c == '%' || c == '=' || c == '&'

theorem ascii_of_form_mark (c : Char) (mark : isFormMark c = true) : c.toNat < 128 := by
  simp only [isFormMark, isFormChar, Bool.or_eq_true, beq_iff_eq] at mark
  rcases mark with ((((((((letter | digit) | rfl) | rfl) | rfl) | rfl) | rfl) | rfl) | rfl) | rfl
  · exact ascii_of_letter letter
  · exact ascii_of_digit digit
  all_goals decide

theorem mem_form_encode {x : Char} {s : List Char} (mem : x ∈ formEncode s) :
    x = '+' ∨ isFormChar x = true ∨ x = '%' ∨ isHexDigit x = true := by
  obtain ⟨c, _, mem⟩ := List.mem_flatMap.1 mem
  split at mem
  · exact .inl (List.mem_singleton.1 mem)
  · split at mem
    · rename_i form
      rw [List.mem_singleton.1 mem]
      exact .inr (.inl form)
    · exact .inr (.inr (mem_encode_char mem))

theorem form_encode_marks (s : List Char) : ∀ x ∈ formEncode s, isFormMark x = true := by
  intro x mem
  rcases mem_form_encode mem with rfl | form | rfl | digit
  · rfl
  · rw [isFormMark, form]
    rfl
  · rfl
  · exact forall_ascii (p := fun x => isHexDigit x = true → isFormMark x = true) (by decide) x
      (ascii_of_hex_digit x digit) digit

theorem form_pairs_marks (pairs : List (String × String)) :
    ∀ x ∈ formPairs pairs, isFormMark x = true := by
  intro x mem
  rcases mem_intercalate '&' x _ mem with rfl | ⟨written, there, mem⟩
  · rfl
  · obtain ⟨pair, _, rfl⟩ := List.mem_map.1 there
    rcases List.mem_append.1 mem with mem | mem
    · exact form_encode_marks _ x mem
    · rcases List.mem_cons.1 mem with rfl | mem
      · rfl
      · exact form_encode_marks _ x mem

end ServiceDiscovery.Url
