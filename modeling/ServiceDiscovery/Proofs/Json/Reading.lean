import Mathlib.Data.List.DropRight
import ServiceDiscovery.Proofs.Json.Grammar

namespace ServiceDiscovery.Json

open Text

theorem skip_blank_cons (c : Char) (rest : List Char) (visible : isBlank c = false) :
    skipBlank (c :: rest) = c :: rest := by
  rw [skipBlank, List.dropWhile_cons, visible]
  rfl

theorem skip_blanks {front : List Char} (blank : Blanks front) (s : List Char) :
    skipBlank (front ++ s) = skipBlank s := List.dropWhile_append_of_pos blank

section

variable (fuel : Nat) (s : List Char)

theorem skip_blank_twice : skipBlank (skipBlank s) = skipBlank s := List.dropWhile_idempotent ..

theorem value_skip_blank : value? fuel (skipBlank s) = value? fuel s := by
  cases fuel with
  | zero => rw [value?, value?]
  | succ fuel => rw [value?, value?, skip_blank_twice]

theorem items_skip_blank : items? fuel (skipBlank s) = items? fuel s := by
  cases fuel with
  | zero => rw [items?, items?]
  | succ fuel => rw [items?, items?, value_skip_blank]

theorem members_skip_blank : members? fuel (skipBlank s) = members? fuel s := by
  cases fuel with
  | zero => rw [members?, members?]
  | succ fuel => rw [members?, members?, skip_blank_twice]

end

theorem digit_visible (c : Char) (digit : isAsciiDigit c = true) : isBlank c = false := by
  cases blank : isBlank c with
  | false => rfl
  | true =>
      simp only [isBlank, Bool.or_eq_true, beq_iff_eq] at blank
      rcases blank with ((rfl | rfl) | rfl) | rfl <;> exact absurd digit (by decide)

theorem number_head {sign digits fraction exponent : List Char}
    (parts : NumberParts sign digits fraction exponent) (rest : List Char) :
    ∃ c tail, sign ++ digits ++ fraction ++ exponent ++ rest = c :: tail ∧
      (c = '-' ∨ isAsciiDigit c = true) := by
  rcases parts.sign with rfl | rfl
  · rcases parts.digits with rfl | ⟨legal, _⟩
    · exact ⟨'0', _, rfl, .inr (by decide)⟩
    · cases digits with
      | nil => exact absurd rfl legal.1
      | cons d digits => exact ⟨d, _, rfl, .inr (legal.2 d List.mem_cons_self)⟩
  · exact ⟨'-', _, rfl, .inl rfl⟩

theorem written_head {j : Json} {text : List Char} (written : Written j text) (rest : List Char) :
    ∃ c tail, text ++ rest = c :: tail ∧ isBlank c = false ∧ c ≠ ']' := by
  cases written with
  | null => exact ⟨'n', _, rfl, by decide, by decide⟩
  | yes => exact ⟨'t', _, rfl, by decide, by decide⟩
  | no => exact ⟨'f', _, rfl, by decide, by decide⟩
  | number sign digits fraction exponent parts =>
      obtain ⟨c, tail, same, first⟩ := number_head parts rest
      refine ⟨c, tail, same, ?_, ?_⟩
      · rcases first with rfl | digit
        · decide
        · exact digit_visible c digit
      · rintro rfl
        exact absurd first (by decide)
  | string pieces legal => exact ⟨'"', _, rfl, by decide, by decide⟩
  | emptyArray blanks blank => exact ⟨'[', _, rfl, by decide, by decide⟩
  | array items text written => exact ⟨'[', _, rfl, by decide, by decide⟩
  | emptyObject blanks blank => exact ⟨'{', _, rfl, by decide, by decide⟩
  | object members text written => exact ⟨'{', _, rfl, by decide, by decide⟩

theorem spaced_head {j : Json} {text : List Char} (spaced : Spaced j text) (rest : List Char) :
    ∃ c tail, skipBlank (text ++ rest) = c :: tail ∧ c ≠ ']' := by
  cases spaced with
  | around j front text back before written after =>
      obtain ⟨c, tail, same, visible, other⟩ := written_head written (back ++ rest)
      refine ⟨c, tail, ?_, other⟩
      rw [List.append_assoc, skip_blanks before, List.append_assoc, same,
        skip_blank_cons c _ visible]

theorem items_head {items : List Json} {text : List Char} (written : WrittenItems items text)
    (rest : List Char) : ∃ c tail, skipBlank (text ++ rest) = c :: tail ∧ c ≠ ']' := by
  cases written with
  | last j text spaced => exact spaced_head spaced rest
  | next j items text more spaced written =>
      rw [List.append_assoc]
      exact spaced_head spaced _

theorem member_head {name : Content} {j : Json} {text : List Char}
    (written : WrittenMember name j text) (rest : List Char) :
    ∃ tail, skipBlank (text ++ rest) = '"' :: tail := by
  cases written with
  | named name j front middle text before legal between spaced =>
      rw [List.append_assoc, skip_blanks before]
      exact ⟨_, skip_blank_cons _ _ (by decide)⟩

theorem members_head {members : Members} {text : List Char} (written : WrittenMembers members text)
    (rest : List Char) : ∃ tail, skipBlank (text ++ rest) = '"' :: tail := by
  cases written with
  | last name j text written => exact member_head written rest
  | next name j members text more written others =>
      rw [List.append_assoc]
      exact member_head written _

def ReadsValues (fuel : Nat) : Prop :=
  ∀ j text rest, Written j text → Closes rest → text.length ≤ fuel →
    value? fuel (text ++ rest) = some (j, rest)

def ReadsItems (fuel : Nat) : Prop :=
  ∀ items text rest, WrittenItems items text → text.length < fuel →
    items? fuel (text ++ ']' :: rest) = some (items, rest)

def ReadsMembers (fuel : Nat) : Prop :=
  ∀ members text rest, WrittenMembers members text → text.length < fuel →
    members? fuel (text ++ '}' :: rest) = some (members, rest)

theorem spaced_read {fuel : Nat} (values : ReadsValues fuel) {j : Json} {text : List Char}
    (spaced : Spaced j text) (rest : List Char) (closes : Closes rest)
    (enough : text.length ≤ fuel) :
    ∃ after, value? fuel (text ++ rest) = some (j, after) ∧ skipBlank after = skipBlank rest := by
  cases spaced with
  | around j front text back before written after =>
      refine ⟨back ++ rest, ?_, skip_blanks after rest⟩
      have closes : Closes (back ++ rest) := by
        cases back with
        | nil => exact closes
        | cons c back =>
            refine closes_cons c _ ?_
            have blank := after c List.mem_cons_self
            simp only [isBlank, Bool.or_eq_true, beq_iff_eq] at blank
            rcases blank with ((rfl | rfl) | rfl) | rfl <;> decide
      simp only [List.length_append] at enough
      rw [List.append_assoc, List.append_assoc, ← value_skip_blank, skip_blanks before,
        value_skip_blank]
      exact values j text _ written closes (by omega)

theorem reads_items_succ (fuel : Nat) (values : ReadsValues fuel) (items : ReadsItems fuel) :
    ReadsItems (fuel + 1) := by
  intro list text rest written enough
  cases written with
  | last j text spaced =>
      obtain ⟨after, read, skipped⟩ :=
        spaced_read values spaced (']' :: rest) (closes_cons _ _ (by decide)) (by omega)
      rw [skip_blank_cons _ _ (by decide)] at skipped
      rw [items?, read]
      simp [skipped]
  | next j list text more spaced written =>
      rw [List.length_append, List.length_cons] at enough
      obtain ⟨after, read, skipped⟩ := spaced_read values spaced (',' :: (more ++ ']' :: rest))
        (closes_cons _ _ (by decide)) (by omega)
      rw [skip_blank_cons _ _ (by decide)] at skipped
      have others := items list more rest written (by omega)
      rw [List.append_assoc, List.cons_append, items?, read]
      simp [skipped, others]

theorem literal_append (pieces : List Piece) (rest : List Char) :
    literal pieces ++ rest = '"' :: (pieces.flatMap Piece.chars ++ '"' :: rest) := by
  rw [literal, List.cons_append, List.append_assoc]
  rfl

theorem member_read {fuel : Nat} (values : ReadsValues fuel) {name : Content} {j : Json}
    {text : List Char} (written : WrittenMember name j text) (enough : text.length ≤ fuel)
    (rest : List Char) :
    members? (fuel + 1) (text ++ '}' :: rest) = some (Members.cons name j (some []), rest) ∧
    members? (fuel + 1) (text ++ ',' :: rest) =
      (members? fuel rest).bind fun (members, after) => some (members.cons name j, after) := by
  cases written with
  | named name j front middle text before legal between spaced =>
      simp only [List.length_append, List.length_cons] at enough
      have opened (more : List Char) :
          skipBlank (front ++ (literal name ++ (middle ++ ':' :: text)) ++ more) =
            '"' :: (name.flatMap Piece.chars ++ '"' :: (middle ++ ':' :: (text ++ more))) := by
        rw [List.append_assoc, skip_blanks before, List.append_assoc, literal_append,
          skip_blank_cons _ _ (by decide), List.append_assoc, List.cons_append]
      have colon (more : List Char) :
          skipBlank (middle ++ ':' :: (text ++ more)) = ':' :: (text ++ more) := by
        rw [skip_blanks between, skip_blank_cons _ _ (by decide)]
      constructor
      · obtain ⟨after, read, skipped⟩ :=
          spaced_read values spaced ('}' :: rest) (closes_cons _ _ (by decide)) (by omega)
        rw [skip_blank_cons _ _ (by decide)] at skipped
        rw [members?, opened]
        simp [string_rest_pieces name legal, colon, read, skipped]
      · obtain ⟨after, read, skipped⟩ :=
          spaced_read values spaced (',' :: rest) (closes_cons _ _ (by decide)) (by omega)
        rw [skip_blank_cons _ _ (by decide)] at skipped
        rw [members?, opened]
        simp [string_rest_pieces name legal, colon, read, skipped]

theorem reads_members_succ (fuel : Nat) (values : ReadsValues fuel) (members : ReadsMembers fuel) :
    ReadsMembers (fuel + 1) := by
  intro list text rest written enough
  cases written with
  | last name j text written => exact (member_read values written (by omega) rest).1
  | next name j list text more written others =>
      rw [List.length_append, List.length_cons] at enough
      have following := members list more rest others (by omega)
      rw [List.append_assoc, List.cons_append, (member_read values written (by omega) _).2,
        following]
      rfl

theorem word_read (word : String) (value : Json) (rest : List Char) :
    word? word value (word.toList ++ rest) = some (value, rest) := by
  have prefixed : word.toList.isPrefixOf (word.toList ++ rest) = true :=
    List.isPrefixOf_iff_prefix.2 (List.prefix_append _ _)
  rw [word?, if_pos prefixed, ← String.length_toList, List.drop_left]

theorem value_number (fuel : Nat) {sign digits fraction exponent : List Char}
    (parts : NumberParts sign digits fraction exponent) (rest : List Char) (closes : Closes rest) :
    value? (fuel + 1) (sign ++ digits ++ fraction ++ exponent ++ rest) =
      some (numberOf sign digits fraction exponent, rest) := by
  have read := number_read parts rest closes
  obtain ⟨c, tail, same, first⟩ := number_head parts rest
  have other (d : Char) (letter : ¬ (d = '-' ∨ isAsciiDigit d = true)) : c ≠ d := by
    rintro rfl
    exact letter first
  have visible : isBlank c = false := by
    rcases first with rfl | digit
    · decide
    · exact digit_visible c digit
  rw [same] at read ⊢
  rw [value?, skip_blank_cons c _ visible]
  split
  case h_7 => exact read
  all_goals
    rename_i same
    exact absurd (List.cons.inj same).1 (other _ (by decide))

theorem reads_values_succ (fuel : Nat) (items : ReadsItems fuel) (members : ReadsMembers fuel) :
    ReadsValues (fuel + 1) := by
  intro j text rest written closes enough
  cases written with
  | null =>
      have read := word_read "ull" .null rest
      rw [value?]
      simpa [skip_blank_cons 'n' _ (by decide)] using read
  | yes =>
      have read := word_read "rue" (.bool true) rest
      rw [value?]
      simpa [skip_blank_cons 't' _ (by decide)] using read
  | no =>
      have read := word_read "alse" (.bool false) rest
      rw [value?]
      simpa [skip_blank_cons 'f' _ (by decide)] using read
  | number sign digits fraction exponent parts => exact value_number fuel parts rest closes
  | string pieces legal =>
      rw [literal_append, value?, skip_blank_cons _ _ (by decide)]
      simp [string_rest_pieces pieces legal]
  | emptyArray blanks blank =>
      have closing : skipBlank (blanks ++ ']' :: rest) = ']' :: rest := by
        rw [skip_blanks blank, skip_blank_cons _ _ (by decide)]
      rw [List.cons_append, List.append_assoc, value?, skip_blank_cons _ _ (by decide)]
      simp [closing]
  | array list text written =>
      rw [List.length_cons, List.length_append, List.length_singleton] at enough
      have read := items list text rest written (by omega)
      obtain ⟨c, tail, head, other⟩ := items_head written (']' :: rest)
      rw [← items_skip_blank, head] at read
      rw [List.cons_append, List.append_assoc, value?, skip_blank_cons _ _ (by decide)]
      simp [head, other, read]
  | emptyObject blanks blank =>
      have closing : skipBlank (blanks ++ '}' :: rest) = '}' :: rest := by
        rw [skip_blanks blank, skip_blank_cons _ _ (by decide)]
      rw [List.cons_append, List.append_assoc, value?, skip_blank_cons _ _ (by decide)]
      simp [closing]
  | object list text written =>
      rw [List.length_cons, List.length_append, List.length_singleton] at enough
      have read := members list text rest written (by omega)
      obtain ⟨tail, head⟩ := members_head written ('}' :: rest)
      rw [← members_skip_blank, head] at read
      rw [List.cons_append, List.append_assoc, value?, skip_blank_cons _ _ (by decide)]
      simp [head, read]

-- By induction on the fuel: inside its brackets a value has shorter ones, for which less is enough.
theorem reads_written (fuel : Nat) : ReadsValues fuel ∧ ReadsItems fuel ∧ ReadsMembers fuel := by
  induction fuel with
  | zero =>
      refine ⟨?_, ?_, ?_⟩
      · intro j text rest written _ enough
        obtain ⟨c, tail, head, _⟩ := written_head written []
        rw [List.append_nil] at head
        rw [head] at enough
        cases enough
      · intro items text rest _ enough
        cases enough
      · intro members text rest _ enough
        cases enough
  | succ fuel ih =>
      obtain ⟨values, items, members⟩ := ih
      exact ⟨reads_values_succ fuel items members, reads_items_succ fuel values items,
        reads_members_succ fuel values members⟩

/-- A text of the grammar is read as the value that it writes. -/
theorem parse_spaced (j : Json) (text : String) (spaced : Spaced j text.toList) :
    parse? text = some j := by
  have closes : Closes [] := fun c missing => absurd missing (by simp)
  have enough : text.toList.length ≤ 2 * text.length + 2 := by
    rw [String.length_toList]
    omega
  obtain ⟨after, read, skipped⟩ :=
    spaced_read (reads_written (2 * text.length + 2)).1 spaced [] closes enough
  rw [List.append_nil] at read
  rw [parse?, read]
  exact if_pos skipped

end ServiceDiscovery.Json
