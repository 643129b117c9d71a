import ServiceDiscovery.Proofs.Json.Reading

namespace ServiceDiscovery.Json

open Text

-- A value that has a text of its own: all its strings are text, and its numbers runs of digits.
inductive Plain : Json → Prop where
  | null : Plain .null
  | bool (b : Bool) : Plain (.bool b)
  | number (n : Nat) : Plain (.number n)
  | string (s : String) : Plain (.string s)
  | array (items : List Json) (plain : ∀ j ∈ items, Plain j) : Plain (.array items)
  | object (members : List (String × Json)) (plain : ∀ m ∈ members, Plain m.2) :
      Plain (.object members)

theorem hex_escape (n : Nat) (control : n < 0x20) :
    ['0', '0', hexDigit (n / 16), hexDigit (n % 16)].all isHexDigit = true ∧
      numeral 16 ['0', '0', hexDigit (n / 16), hexDigit (n % 16)] = n := by
  have all : ∀ n < 0x20, ['0', '0', hexDigit (n / 16), hexDigit (n % 16)].all isHexDigit = true ∧
      numeral 16 ['0', '0', hexDigit (n / 16), hexDigit (n % 16)] = n := by
    decide
  exact all n control

theorem content_unit {a b c d : Char} {n : Nat} (unit : numeral 16 [a, b, c, d] = n)
    (small : n < 0xD800) (rest : List Piece) :
    Piece.content (.unit a b c d :: rest) = (Piece.content rest).cons (Char.ofNat n) := by
  have high : isHighSurrogate n = false := by
    simp [isHighSurrogate]
    omega
  have low : isLowSurrogate n = false := by
    simp [isLowSurrogate]
    omega
  cases rest with
  | nil => simp [Piece.content, unit, high, low]
  | cons next rest => cases next <;> simp [Piece.content, unit, high, low]

theorem escape_piece (c : Char) :
    ∃ piece : Piece, piece.Legal ∧ piece.chars = escapeChar c ∧
      ∀ rest, Piece.content (piece :: rest) = (Piece.content rest).cons c := by
  unfold escapeChar
  iterate 7
    split
    · subst c
      exact ⟨.letter _ _, by decide, rfl, fun _ => rfl⟩
  rename_i quote escape _ _ _ _ _
  by_cases control : c.toNat < 0x20
  · obtain ⟨hexadecimal, value⟩ := hex_escape c.toNat control
    rw [if_pos control]
    refine ⟨.unit _ _ _ _, hexadecimal, rfl, fun rest => ?_⟩
    rw [content_unit value (by omega), Char.ofNat_toNat]
  · rw [if_neg control]
    exact ⟨.plain c, ⟨Nat.le_of_not_lt control, quote, escape⟩, rfl, fun _ => rfl⟩

theorem quoted_literal (s : String) :
    ∃ pieces : List Piece, (∀ piece ∈ pieces, piece.Legal) ∧ literal pieces = quoted s ∧
      Piece.content pieces = some s.toList := by
  suffices pieces : ∀ s : List Char, ∃ pieces : List Piece, (∀ piece ∈ pieces, piece.Legal) ∧
      pieces.flatMap Piece.chars = s.flatMap escapeChar ∧ Piece.content pieces = some s by
    obtain ⟨pieces, legal, same, content⟩ := pieces s.toList
    exact ⟨pieces, legal, by rw [literal, quoted, same], content⟩
  intro s
  induction s with
  | nil => exact ⟨[], by simp, rfl, rfl⟩
  | cons c s ih =>
      obtain ⟨pieces, legal, same, content⟩ := ih
      obtain ⟨piece, lawful, written, first⟩ := escape_piece c
      refine ⟨piece :: pieces, List.forall_mem_cons.2 ⟨lawful, legal⟩, ?_, ?_⟩
      · rw [List.flatMap_cons, List.flatMap_cons, written, same]
      · rw [first, content]
        rfl

theorem number_written (n : Nat) : Written (.number n) (Nat.toDigits 10 n) := by
  have parts : NumberParts [] (Nat.toDigits 10 n) [] [] := by
    refine ⟨.inl rfl, ?_, .inl rfl, .inl rfl⟩
    by_cases zero : n = 0
    · exact .inl (zero ▸ rfl)
    · refine .inr ⟨⟨Nat.toDigits_ne_nil, ascii_digit_of_decimal n⟩, fun first => ?_⟩
      obtain ⟨tail, same⟩ := List.head?_eq_some_iff.1 first
      exact decimal_head n (Nat.pos_of_ne_zero zero) tail same
  have written := Written.number _ _ _ _ parts
  rw [numberOf, if_pos ⟨rfl, rfl, rfl⟩, numeral_decimal] at written
  simpa using written

theorem spaced_of_written {j : Json} {text : List Char} (written : Written j text) :
    Spaced j text := by
  have around := Spaced.around j [] text [] (by simp [Blanks]) written (by simp [Blanks])
  rwa [List.nil_append, List.append_nil] at around

theorem items_written (first : Json) (items : List Json)
    (written : ∀ j ∈ first :: items, Written j j.chars) :
    WrittenItems (first :: items) (separated (itemChars (first :: items))) := by
  induction items generalizing first with
  | nil => exact .last _ _ (spaced_of_written (written first List.mem_cons_self))
  | cons second items ih =>
      obtain ⟨here, there⟩ := List.forall_mem_cons.1 written
      exact .next _ _ _ _ (spaced_of_written here) (ih second there)

theorem member_written (name : String) (j : Json) (written : Written j j.chars) :
    WrittenMember (some name.toList) j (quoted name ++ ':' :: j.chars) := by
  obtain ⟨pieces, legal, same, content⟩ := quoted_literal name
  have named := WrittenMember.named pieces j [] [] j.chars (by simp [Blanks]) legal
    (by simp [Blanks]) (spaced_of_written written)
  rwa [content, same] at named

theorem members_written (first : String × Json) (members : List (String × Json))
    (written : ∀ m ∈ first :: members, Written m.2 m.2.chars) :
    WrittenMembers (some (first :: members)) (separated (memberChars (first :: members))) := by
  have named (name : String) (j : Json) (others : List (String × Json)) :
      Members.cons (some name.toList) j (some others) = some ((name, j) :: others) := by
    simp [Members.cons]
  induction members generalizing first with
  | nil =>
      rw [← named]
      exact .last _ _ _ (member_written _ _ (written first List.mem_cons_self))
  | cons second members ih =>
      obtain ⟨here, there⟩ := List.forall_mem_cons.1 written
      rw [← named]
      exact .next _ _ _ _ _ (member_written _ _ here) (ih second there)

theorem plain_written (j : Json) (plain : Plain j) : Written j j.chars := by
  induction plain with
  | null =>
      rw [chars_null]
      exact .null
  | bool b =>
      rw [chars_bool]
      cases b with
      | true => exact .yes
      | false => exact .no
  | number n =>
      rw [chars_number]
      exact number_written n
  | string s =>
      obtain ⟨pieces, legal, same, content⟩ := quoted_literal s
      have written := Written.string pieces legal
      rw [content, ofContent, String.ofList_toList, same] at written
      rwa [chars_string]
  | array items plain ih =>
      rw [chars_array]
      cases items with
      | nil => exact .emptyArray [] (by simp [Blanks])
      | cons first items => exact .array _ _ (items_written first items ih)
  | object members plain ih =>
      rw [chars_object]
      cases members with
      | nil => exact .emptyObject [] (by simp [Blanks])
      | cons first members => exact .object _ _ (members_written first members ih)

theorem parse_text (j : Json) (plain : Plain j) : parse? j.text = some j := by
  have written := spaced_of_written (plain_written j plain)
  rw [← String.toList_ofList (l := j.chars)] at written
  exact parse_spaced j j.text written

end ServiceDiscovery.Json
