import ServiceDiscovery.Json.Parser
import ServiceDiscovery.Proofs.Text.Separator

namespace ServiceDiscovery.Json

open Text

def Blanks (s : List Char) : Prop := ∀ c ∈ s, isBlank c = true

def letterEscapes : List (Char × Char) :=
  [('"', '"'), ('\\', '\\'), ('/', '/'), ('b', '\x08'), ('f', '\x0c'), ('n', '\n'), ('r', '\r'),
    ('t', '\t')]

-- A piece of a string: a character as it is, an escape of one letter, or one code unit by its
-- hexadecimal digits.
inductive Piece where
  | plain (c : Char)
  | letter (mark c : Char)
  | unit (a b c d : Char)

namespace Piece

def Legal : Piece → Prop
  | plain c => 0x20 ≤ c.toNat ∧ c ≠ '"' ∧ c ≠ '\\'
  | letter mark c => (mark, c) ∈ letterEscapes
  | unit a b c d => [a, b, c, d].all isHexDigit = true

instance : (piece : Piece) → Decidable piece.Legal
  | plain c => inferInstanceAs (Decidable (0x20 ≤ c.toNat ∧ c ≠ '"' ∧ c ≠ '\\'))
  | letter mark c => inferInstanceAs (Decidable ((mark, c) ∈ letterEscapes))
  | unit a b c d => inferInstanceAs (Decidable ([a, b, c, d].all isHexDigit = true))

def chars : Piece → List Char
  | plain c => [c]
  | letter mark _ => ['\\', mark]
  | unit a b c d => ['\\', 'u', a, b, c, d]

-- What pieces hold: a code unit is a character, unless it is one half of a pair. Together both
-- halves are a character, and alone neither is.
def content : List Piece → Content
  | [] => some []
  | plain c :: rest => (content rest).cons c
  | letter _ c :: rest => (content rest).cons c
  | unit a b c d :: unit e f g h :: rest =>
    let first := numeral 16 [a, b, c, d]
    let second := numeral 16 [e, f, g, h]
    if isHighSurrogate first && isLowSurrogate second then
      (content rest).cons (pairedSurrogates first second)
    else if isHighSurrogate first || isLowSurrogate first then none
    else (content (unit e f g h :: rest)).cons (Char.ofNat first)
  | unit a b c d :: rest =>
    let unit := numeral 16 [a, b, c, d]
    if isHighSurrogate unit || isLowSurrogate unit then none
    else (content rest).cons (Char.ofNat unit)

end Piece

def literal (pieces : List Piece) : List Char := '"' :: (pieces.flatMap Piece.chars ++ ['"'])

def Digits (s : List Char) : Prop := s ≠ [] ∧ ∀ c ∈ s, isAsciiDigit c = true

structure NumberParts (sign digits fraction exponent : List Char) : Prop where
  sign : sign = [] ∨ sign = ['-']
  digits : digits = ['0'] ∨ Digits digits ∧ digits.head? ≠ some '0'
  fraction : fraction = [] ∨ ∃ run, fraction = '.' :: run ∧ Digits run
  exponent : exponent = [] ∨ ∃ mark, ∃ sign ∈ [[], ['+'], ['-']], ∃ run,
    exponent = mark :: (sign ++ run) ∧ (mark = 'e' ∨ mark = 'E') ∧ Digits run

def numberOf (sign digits fraction exponent : List Char) : Json :=
  if sign = [] ∧ fraction = [] ∧ exponent = [] then .number (numeral 10 digits)
  else .otherNumber (.ofList (sign ++ digits ++ fraction ++ exponent))

mutual

inductive Written : Json → List Char → Prop where
  | null : Written .null "null".toList
  | yes : Written (.bool true) "true".toList
  | no : Written (.bool false) "false".toList
  | number (sign digits fraction exponent : List Char)
      (parts : NumberParts sign digits fraction exponent) :
      Written (numberOf sign digits fraction exponent) (sign ++ digits ++ fraction ++ exponent)
  | string (pieces : List Piece) (legal : ∀ piece ∈ pieces, piece.Legal) :
      Written (ofContent (Piece.content pieces)) (literal pieces)
  | emptyArray (blanks : List Char) (blank : Blanks blanks) :
      Written (.array []) ('[' :: (blanks ++ [']']))
  | array (items : List Json) (text : List Char) (written : WrittenItems items text) :
      Written (.array items) ('[' :: (text ++ [']']))
  | emptyObject (blanks : List Char) (blank : Blanks blanks) :
      Written (.object []) ('{' :: (blanks ++ ['}']))
  | object (members : Members) (text : List Char) (written : WrittenMembers members text) :
      Written (ofMembers members) ('{' :: (text ++ ['}']))

inductive Spaced : Json → List Char → Prop where
  | around (j : Json) (front text back : List Char) (before : Blanks front)
      (written : Written j text) (after : Blanks back) : Spaced j (front ++ (text ++ back))

inductive WrittenItems : List Json → List Char → Prop where
  | last (j : Json) (text : List Char) (spaced : Spaced j text) : WrittenItems [j] text
  | next (j : Json) (items : List Json) (text more : List Char) (spaced : Spaced j text)
      (written : WrittenItems items more) : WrittenItems (j :: items) (text ++ ',' :: more)

inductive WrittenMember : Content → Json → List Char → Prop where
  | named (name : List Piece) (j : Json) (front middle text : List Char) (before : Blanks front)
      (legal : ∀ piece ∈ name, piece.Legal) (between : Blanks middle) (spaced : Spaced j text) :
      WrittenMember (Piece.content name) j (front ++ (literal name ++ (middle ++ ':' :: text)))

inductive WrittenMembers : Members → List Char → Prop where
  | last (name : Content) (j : Json) (text : List Char) (written : WrittenMember name j text) :
      WrittenMembers (Members.cons name j (some [])) text
  | next (name : Content) (j : Json) (members : Members) (text more : List Char)
      (written : WrittenMember name j text) (others : WrittenMembers members more) :
      WrittenMembers (Members.cons name j members) (text ++ ',' :: more)

end

def reads (c : Char) (rest : List Char) : Option (Content × List Char) :=
  (stringRest rest).bind fun (content, after) => some (content.cons c, after)

theorem string_rest_letter (letter c : Char) (rest : List Char)
    (known : simpleEscape? letter = some c) :
    stringRest ('\\' :: letter :: rest) = reads c rest := by
  have other : letter ≠ 'u' := by
    rintro rfl
    cases known
  rw [stringRest, known]
  · simp [reads]
  · intro _ _ _ _ _ _ _ _ _ same
    exact absurd same other
  · intro _ _ _ _ _ same
    exact absurd same other

theorem string_rest_plain (c : Char) (rest : List Char) (quote : c ≠ '"') (escape : c ≠ '\\')
    (printed : ¬ c.toNat < 0x20) : stringRest (c :: rest) = reads c rest := by
  rw [stringRest]
  · simp [reads, escape, printed]
  · exact quote
  · intro _ _ _ _ _ _ _ _ _ same
    exact absurd same escape
  · intro _ _ _ _ _ same
    exact absurd same escape
  · intro _ _ same
    exact absurd same escape

theorem simple_escape_of_letter (mark c : Char) (known : (mark, c) ∈ letterEscapes) :
    simpleEscape? mark = some c := by
  have all : ∀ escape ∈ letterEscapes, simpleEscape? escape.1 = some escape.2 := by decide
  exact all _ known

section

variable {a b c d e f g h : Char} (rest : List Char) (first : [a, b, c, d].all isHexDigit = true)

include first

theorem string_rest_pair (second : [e, f, g, h].all isHexDigit = true) :
    stringRest ('\\' :: 'u' :: a :: b :: c :: d :: '\\' :: 'u' :: e :: f :: g :: h :: rest) =
      let one := numeral 16 [a, b, c, d]
      let other := numeral 16 [e, f, g, h]
      let more := stringRest ('\\' :: 'u' :: e :: f :: g :: h :: rest)
      if isHighSurrogate one && isLowSurrogate other then reads (pairedSurrogates one other) rest
      else if isHighSurrogate one || isLowSurrogate one then
        more.bind fun (_, after) => some (none, after)
      else more.bind fun (content, after) => some (content.cons (Char.ofNat one), after) := by
  have unit : hex4? a b c d = some (numeral 16 [a, b, c, d]) := if_pos first
  have next : hex4? e f g h = some (numeral 16 [e, f, g, h]) := if_pos second
  rw [stringRest]
  cases high : isHighSurrogate (numeral 16 [a, b, c, d]) with
  | true =>
      cases low : isLowSurrogate (numeral 16 [e, f, g, h]) with
      | true => simp [reads, unit, next, high, low]
      | false => simp [unit, next, high, low]
  | false =>
      cases low : isLowSurrogate (numeral 16 [a, b, c, d]) with
      | true => simp [unit, high, low]
      | false => simp [unit, high, low]

theorem string_rest_unit
    (alone : ∀ e f g h after, rest ≠ '\\' :: 'u' :: e :: f :: g :: h :: after) :
    stringRest ('\\' :: 'u' :: a :: b :: c :: d :: rest) =
      let unit := numeral 16 [a, b, c, d]
      if isHighSurrogate unit || isLowSurrogate unit then
        (stringRest rest).bind fun (_, after) => some (none, after)
      else reads (Char.ofNat unit) rest := by
  have unit : hex4? a b c d = some (numeral 16 [a, b, c, d]) := if_pos first
  rw [stringRest.eq_def]
  split
  · rename_i same
    cases same
  · rename_i same
    cases same
  · rename_i same
    cases same
    exact absurd rfl (alone _ _ _ _ _)
  · rename_i same
    cases same
    by_cases half : isHighSurrogate (numeral 16 [a, b, c, d]) = true ∨
        isLowSurrogate (numeral 16 [a, b, c, d]) = true
    · simp [unit, half]
    · simp [reads, unit, half]
  · rename_i short same
    cases same
    exact (short a b c d rest rfl rfl).elim
  · rename_i short _ same
    cases same
    exact (short a b c d rest rfl rfl).elim

end

-- A code unit that no other follows is no half of a pair.
theorem unit_alone (pieces : List Piece) (legal : ∀ piece ∈ pieces, piece.Legal)
    (other : ∀ piece ∈ pieces.head?, ∀ a b c d, piece ≠ .unit a b c d) (rest : List Char)
    (a b c d : Char) (after : List Char) :
    pieces.flatMap Piece.chars ++ '"' :: rest ≠ '\\' :: 'u' :: a :: b :: c :: d :: after := by
  intro same
  cases pieces with
  | nil => simp at same
  | cons piece pieces =>
      have lawful := legal piece List.mem_cons_self
      cases piece with
      | plain c =>
          obtain ⟨rfl, _⟩ := List.cons.inj same
          exact lawful.2.2 rfl
      | letter mark c =>
          obtain ⟨rfl, _⟩ := List.cons.inj (List.cons.inj same).2
          exact absurd (simple_escape_of_letter _ _ lawful) (by simp [simpleEscape?])
      | unit a b c d => exact other _ rfl a b c d rfl

section

variable {a b c d : Char} {more : List Piece} {rest : List Char}
  (first : [a, b, c, d].all isHexDigit = true)
  (read : stringRest (more.flatMap Piece.chars ++ '"' :: rest) = some (Piece.content more, rest))

include first read

theorem string_rest_alone (legal : ∀ piece ∈ more, piece.Legal)
    (other : ∀ piece ∈ more.head?, ∀ a b c d, piece ≠ .unit a b c d) :
    stringRest ((Piece.unit a b c d :: more).flatMap Piece.chars ++ '"' :: rest) =
      some (Piece.content (.unit a b c d :: more), rest) := by
  have content : Piece.content (.unit a b c d :: more) =
      if isHighSurrogate (numeral 16 [a, b, c, d]) || isLowSurrogate (numeral 16 [a, b, c, d]) then
        none
      else (Piece.content more).cons (Char.ofNat (numeral 16 [a, b, c, d])) := by
    rw [Piece.content]
    rintro e f g h after rfl
    exact other _ rfl e f g h rfl
  have unit := string_rest_unit (more.flatMap Piece.chars ++ '"' :: rest) first
    (unit_alone more legal other rest)
  rw [List.flatMap_cons, List.append_assoc]
  refine unit.trans ?_
  dsimp only
  rw [content, reads, read]
  split
  · rfl
  · rfl

theorem string_rest_halves {e f g h : Char} {after : List Piece}
    (second : more = .unit e f g h :: after) (legal : ∀ piece ∈ more, piece.Legal)
    (later : stringRest (after.flatMap Piece.chars ++ '"' :: rest) =
      some (Piece.content after, rest)) :
    stringRest ((Piece.unit a b c d :: more).flatMap Piece.chars ++ '"' :: rest) =
      some (Piece.content (.unit a b c d :: more), rest) := by
  subst second
  have pair := string_rest_pair (after.flatMap Piece.chars ++ '"' :: rest) first
    (legal _ List.mem_cons_self)
  have same : '\\' :: 'u' :: e :: f :: g :: h :: (after.flatMap Piece.chars ++ '"' :: rest) =
      (Piece.unit e f g h :: after).flatMap Piece.chars ++ '"' :: rest := by
    rw [List.flatMap_cons, List.append_assoc]
    rfl
  dsimp only at pair
  rw [same, read, reads, later] at pair
  rw [List.flatMap_cons, List.append_assoc]
  refine pair.trans ?_
  rw [Piece.content]
  dsimp only
  split
  · rfl
  · split
    · rfl
    · rfl

end

theorem string_rest_pieces (pieces : List Piece) (legal : ∀ piece ∈ pieces, piece.Legal)
    (rest : List Char) :
    stringRest (pieces.flatMap Piece.chars ++ '"' :: rest) = some (Piece.content pieces, rest) := by
  cases pieces with
  | nil => rw [List.flatMap_nil, List.nil_append, stringRest, Piece.content]
  | cons piece more =>
      obtain ⟨first, others⟩ := List.forall_mem_cons.1 legal
      have read := string_rest_pieces more others rest
      cases piece with
      | plain c =>
          have head := string_rest_plain c (more.flatMap Piece.chars ++ '"' :: rest) first.2.1
            first.2.2 (Nat.not_lt_of_le first.1)
          rw [reads, read] at head
          exact head
      | letter mark c =>
          have head := string_rest_letter mark c (more.flatMap Piece.chars ++ '"' :: rest)
            (simple_escape_of_letter mark c first)
          rw [reads, read] at head
          exact head
      | unit a b c d =>
          cases more with
          | nil => exact string_rest_alone first read others (by simp)
          | cons next after =>
              cases next with
              | plain x => exact string_rest_alone first read others (by simp)
              | letter mark x => exact string_rest_alone first read others (by simp)
              | unit e f g h =>
                  have later := string_rest_pieces after
                    (fun piece inside => others piece (List.mem_cons_of_mem _ inside)) rest
                  exact string_rest_halves first read rfl others later

def closers : List Char := [' ', '\n', '\t', '\r', ',', ']', '}']

def Closes (rest : List Char) : Prop := ∀ c ∈ rest.head?, c ∈ closers

def Stops (rest : List Char) : Prop := ∀ c ∈ rest.head?, isAsciiDigit c = false

theorem closer_marks (c : Char) (closer : c ∈ closers) :
    isAsciiDigit c = false ∧ c ≠ '.' ∧ ¬ (c = 'e' ∨ c = 'E') := by
  simp only [closers, List.mem_cons, List.not_mem_nil, or_false] at closer
  rcases closer with rfl | rfl | rfl | rfl | rfl | rfl | rfl <;> decide

theorem closes_cons (c : Char) (rest : List Char) (closer : c ∈ closers) :
    Closes (c :: rest) := by
  intro d first
  cases first
  exact closer

theorem head_cons {p : Char → Prop} (c : Char) (rest : List Char) (head : p c) :
    ∀ d ∈ (c :: rest).head?, p d := by
  intro d first
  cases first
  exact head

section

variable {digits fraction exponent run rest : List Char}

theorem digit_run_read (legal : Digits run) (stops : Stops rest) :
    digitRun? (run ++ rest) = some (run, rest) := by
  rw [digitRun?, take_while_until run rest legal.2 stops, drop_while_until run rest legal.2 stops]
  exact if_neg legal.1

theorem integer_part_read (legal : digits = ['0'] ∨ Digits digits ∧ digits.head? ≠ some '0')
    (stops : Stops rest) : integerPart? (digits ++ rest) = some (digits, rest) := by
  rcases legal with rfl | ⟨legal, other⟩
  · cases rest with
    | nil => rfl
    | cons c rest =>
        change (if isAsciiDigit c = true then none else some (['0'], c :: rest)) = _
        rw [stops c rfl]
        rfl
  · rw [integerPart?]
    · exact digit_run_read legal stops
    · intro tail same
      cases digits with
      | nil => exact legal.1 rfl
      | cons c digits =>
          obtain ⟨rfl, _⟩ := List.cons.inj same
          exact other rfl

theorem fraction_part_read (legal : fraction = [] ∨ ∃ run, fraction = '.' :: run ∧ Digits run)
    (stops : Stops rest) (pointless : ∀ c ∈ rest.head?, c ≠ '.') :
    fractionPart? (fraction ++ rest) = some (fraction, rest) := by
  rcases legal with rfl | ⟨run, rfl, legal⟩
  · rw [List.nil_append, fractionPart?]
    rintro tail rfl
    exact pointless '.' rfl rfl
  · rw [List.cons_append, fractionPart?, digit_run_read legal stops]
    rfl

theorem exponent_part_read (closes : Closes rest)
    (legal : exponent = [] ∨ ∃ mark, ∃ sign ∈ [[], ['+'], ['-']], ∃ run,
      exponent = mark :: (sign ++ run) ∧ (mark = 'e' ∨ mark = 'E') ∧ Digits run) :
    exponentPart? (exponent ++ rest) = some (exponent, rest) := by
  rcases legal with rfl | ⟨mark, sign, signed, run, rfl, marked, legal⟩
  · cases rest with
    | nil => rfl
    | cons c rest => exact if_neg (closer_marks c (closes c rfl)).2.2
  · have stops : Stops rest := fun c first => (closer_marks c (closes c first)).1
    have read := digit_run_read legal stops
    simp only [List.mem_cons, List.not_mem_nil, or_false] at signed
    rw [List.cons_append]
    refine (if_pos marked).trans ?_
    rcases signed with rfl | rfl | rfl
    · cases run with
      | nil => exact absurd rfl legal.1
      | cons d run =>
          have digit := legal.2 d List.mem_cons_self
          have unsigned : ¬ (d = '+' ∨ d = '-') := by
            rintro (rfl | rfl) <;> exact absurd digit (by decide)
          rw [List.cons_append] at read
          simp [unsigned, read]
    · simp [read]
    · simp [read]

end

theorem number_read {sign digits fraction exponent : List Char}
    (parts : NumberParts sign digits fraction exponent) (rest : List Char) (closes : Closes rest) :
    number? (sign ++ digits ++ fraction ++ exponent ++ rest) =
      some (numberOf sign digits fraction exponent, rest) := by
  have third := exponent_part_read closes parts.exponent
  have exponent_head : ∀ c ∈ (exponent ++ rest).head?, isAsciiDigit c = false ∧ c ≠ '.' := by
    rcases parts.exponent with rfl | ⟨mark, tail, _, run, rfl, marked, _⟩
    · intro c first
      obtain ⟨digitless, pointless, _⟩ := closer_marks c (closes c first)
      exact ⟨digitless, pointless⟩
    · refine head_cons mark _ ?_
      rcases marked with rfl | rfl <;> decide
  have second := fraction_part_read parts.fraction (fun c first => (exponent_head c first).1)
    fun c first => (exponent_head c first).2
  have fraction_head : Stops (fraction ++ (exponent ++ rest)) := by
    rcases parts.fraction with rfl | ⟨run, rfl, _⟩
    · exact fun c first => (exponent_head c first).1
    · exact head_cons '.' _ (by decide)
  have first := integer_part_read parts.digits fraction_head
  have unsigned : ∀ tail, digits ++ (fraction ++ (exponent ++ rest)) ≠ '-' :: tail := by
    intro tail same
    rcases parts.digits with rfl | ⟨legal, _⟩
    · exact absurd (List.cons.inj same).1 (by decide)
    · cases digits with
      | nil => exact legal.1 rfl
      | cons d digits =>
          have digit := legal.2 d List.mem_cons_self
          rw [(List.cons.inj same).1] at digit
          exact absurd digit (by decide)
  simp only [List.append_assoc]
  unfold number?
  split
  rename_i minus whole signed
  split at signed
  · rename_i tail same
    rcases parts.sign with rfl | rfl
    · exact absurd same (unsigned tail)
    · cases signed
      obtain ⟨_, rfl⟩ := List.cons.inj same
      simp [first, second, third, numberOf]
  · rename_i other
    rcases parts.sign with rfl | rfl
    · cases signed
      simp only [List.nil_append, first, second, third, numberOf, Option.bind_eq_bind,
        Option.bind_some, true_and]
      split
      · rfl
      · simp
    · exact absurd rfl (other _)

end ServiceDiscovery.Json
