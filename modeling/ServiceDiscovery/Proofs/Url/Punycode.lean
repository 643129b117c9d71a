import ServiceDiscovery.Proofs.Text.Separator
import ServiceDiscovery.Url.Punycode

namespace ServiceDiscovery.Url.Punycode

open Text

-- A number in digits of a falling significance that grows with each of them. It ends at the first
-- digit below its threshold, and weights stay below 2^32.
inductive Number (bias : Nat) : Nat → Nat → List Nat → Nat → Prop where
  | last {k weight d : Nat} (low : d < threshold k bias) : Number bias k weight [d] (d * weight)
  | more {k weight d : Nat} {digits : List Nat} {n : Nat} (high : threshold k bias ≤ d)
      (room : weight * (36 - threshold k bias) < 2 ^ 32)
      (follow : Number bias (k + 36) (weight * (36 - threshold k bias)) digits n) :
      Number bias k weight (d :: digits) (d * weight + n)

-- A text takes in one code point for each number, which says how far to go on from the last place:
-- over the places of the text as it is, and at their end to the first with the next code point.
inductive Grows : Bool → Nat → Nat → Nat → List Nat → List Nat → List Nat → Prop where
  | done (first : Bool) (bias point place : Nat) (text : List Nat) :
      Grows first bias point place text [] text
  | insert {first : Bool} {bias point place number : Nat}
      {text before after digits rest last : List Nat} (split : text = before ++ after)
      (read : Number bias 36 1 digits number) (room : place + number < 2 ^ 32)
      (here : before.length = (place + number) % (text.length + 1))
      (grows : Grows false (adapt number (text.length + 1) first)
        (point + (place + number) / (text.length + 1)) (before.length + 1)
        (before ++ (point + (place + number) / (text.length + 1)) :: after) rest last) :
      Grows first bias point place text (digits ++ rest) last

-- The ASCII characters of a text come first, up to the last dash, and then the others in digits.
def Spells (spelling text : List Char) : Prop :=
  ∃ basic digits values, (basic = [] ∧ spelling = digits ∨
      basic ≠ [] ∧ spelling = basic ++ '-' :: digits) ∧
    List.Forall₂ (fun c d => digitValue? c = some d) digits values ∧
    Grows true 72 128 0 (basic.map Char.toNat) values (text.map Char.toNat)

def inserted (s : Decoder) (index : Nat) : Decoder :=
  let count := s.out.length + 1
  let point := s.point + index / count
  let place := index % count
  { out := s.out.take place ++ point :: s.out.drop place, point
    bias := adapt (index - s.oldIndex) count (s.oldIndex == 0)
    index := place + 1, oldIndex := place + 1, weight := 1, k := 36 }

def carried (s : Decoder) (d : Nat) : Decoder :=
  { s with
    index := s.index + d * s.weight
    weight := s.weight * (36 - threshold s.k s.bias)
    k := s.k + 36 }

theorem decode_digit_last (s : Decoder) (d : Nat) (low : d < threshold s.k s.bias)
    (room : s.index + d * s.weight < 2 ^ 32) :
    decodeDigit? s d = some (inserted s (s.index + d * s.weight)) := by
  have small : d * s.weight < 2 ^ 32 := by omega
  simp only [decodeDigit?, bounded?, if_pos small, if_pos room, if_pos low, Option.bind_eq_bind,
    Option.bind_some]
  rfl

theorem decode_digit_more (s : Decoder) (d : Nat) (high : threshold s.k s.bias ≤ d)
    (room : s.index + d * s.weight < 2 ^ 32)
    (weight : s.weight * (36 - threshold s.k s.bias) < 2 ^ 32) :
    decodeDigit? s d = some (carried s d) := by
  have small : d * s.weight < 2 ^ 32 := by omega
  simp only [decodeDigit?, bounded?, if_pos small, if_pos room, if_neg (Nat.not_lt.2 high),
    if_pos weight, Option.bind_eq_bind, Option.bind_some]
  rfl

theorem decode_digit_cases (s after : Decoder) (d : Nat) (decoded : decodeDigit? s d = some after) :
    s.index + d * s.weight < 2 ^ 32 ∧
      (d < threshold s.k s.bias ∧ after = inserted s (s.index + d * s.weight) ∨
        threshold s.k s.bias ≤ d ∧ s.weight * (36 - threshold s.k s.bias) < 2 ^ 32 ∧
          after = carried s d) := by
  by_cases room : s.index + d * s.weight < 2 ^ 32
  · refine ⟨room, ?_⟩
    by_cases low : d < threshold s.k s.bias
    · rw [decode_digit_last s d low room] at decoded
      exact .inl ⟨low, (Option.some.inj decoded).symm⟩
    · have high := Nat.not_lt.1 low
      by_cases weight : s.weight * (36 - threshold s.k s.bias) < 2 ^ 32
      · rw [decode_digit_more s d high room weight] at decoded
        exact .inr ⟨high, weight, (Option.some.inj decoded).symm⟩
      · have small : d * s.weight < 2 ^ 32 := by omega
        simp only [decodeDigit?, bounded?, if_pos small, if_pos room, if_neg low, if_neg weight,
          Option.bind_eq_bind, Option.bind_some, Option.bind_none, reduceCtorEq] at decoded
  · have none : decodeDigit? s d = none := by
      by_cases small : d * s.weight < 2 ^ 32
      · simp only [decodeDigit?, bounded?, if_pos small, if_neg room, Option.bind_eq_bind,
          Option.bind_some, Option.bind_none]
      · simp only [decodeDigit?, bounded?, if_neg small, Option.bind_eq_bind, Option.bind_none]
    cases none.symm.trans decoded

theorem read_number {bias k weight : Nat} {digits : List Nat} {n : Nat}
    (number : Number bias k weight digits n) (rest : List Nat) (s : Decoder)
    (biased : s.bias = bias) (there : s.k = k) (weighed : s.weight = weight)
    (room : s.index + n < 2 ^ 32) :
    (digits ++ rest).foldlM decodeDigit? s =
      rest.foldlM decodeDigit? (inserted s (s.index + n)) := by
  induction number generalizing s with
  | last low =>
      subst biased there weighed
      rw [List.singleton_append, List.foldlM_cons, decode_digit_last s _ low room]
      rfl
  | @more k weight d digits n high small follow ih =>
      subst biased there weighed
      rw [List.cons_append, List.foldlM_cons, decode_digit_more s d high (by omega) small,
        Option.bind_eq_bind, Option.bind_some,
        ih (carried s d) rfl rfl rfl (by rw [carried]; dsimp only; omega)]
      have total : (carried s d).index + n = s.index + (d * s.weight + n) := Nat.add_assoc ..
      rw [total]
      rfl

theorem find_number (values : List Nat) (s final : Decoder) (started : 36 ≤ s.k)
    (read : values.foldlM decodeDigit? s = some final) (ended : final.k = 36) :
    values = [] ∧ final = s ∨
      ∃ digits rest n, values = digits ++ rest ∧ Number s.bias s.k s.weight digits n ∧
        s.index + n < 2 ^ 32 ∧ rest.length < values.length ∧
        rest.foldlM decodeDigit? (inserted s (s.index + n)) = some final := by
  induction values generalizing s with
  | nil =>
      cases read
      exact .inl ⟨rfl, rfl⟩
  | cons d values ih =>
      rw [List.foldlM_cons, Option.bind_eq_bind, Option.bind_eq_some_iff] at read
      obtain ⟨after, step, read⟩ := read
      obtain ⟨room, ⟨low, rfl⟩ | ⟨high, weight, rfl⟩⟩ := decode_digit_cases s after d step
      · exact .inr ⟨[d], values, _, rfl, .last low, room, Nat.lt_succ_self _, read⟩
      · have further : 36 ≤ (carried s d).k := Nat.le_trans started (Nat.le_add_right _ _)
        rcases ih (carried s d) further read with ⟨rfl, rfl⟩ |
          ⟨digits, rest, n, rfl, number, total, shorter, read⟩
        · have same : s.k + 36 = 36 := ended
          omega
        · have sum : (carried s d).index + n = s.index + (d * s.weight + n) := Nat.add_assoc ..
          rw [sum] at total read
          exact .inr ⟨d :: digits, rest, _, rfl, .more high weight number, total,
            Nat.lt_succ_of_lt shorter, read⟩

theorem inserted_eq (s : Decoder) (n : Nat) {before after : List Nat}
    (split : s.out = before ++ after)
    (here : before.length = (s.oldIndex + n) % (s.out.length + 1)) :
    inserted s (s.oldIndex + n) =
      { out := before ++ (s.point + (s.oldIndex + n) / (s.out.length + 1)) :: after
        point := s.point + (s.oldIndex + n) / (s.out.length + 1)
        bias := adapt n (s.out.length + 1) (s.oldIndex == 0)
        index := before.length + 1, oldIndex := before.length + 1, weight := 1, k := 36 } := by
  have front : s.out.take before.length = before := by rw [split, List.take_left]
  have back : s.out.drop before.length = after := by rw [split, List.drop_left]
  unfold inserted
  dsimp only
  rw [← here, front, back, Nat.add_sub_cancel_left]

theorem grows_of_read (values : List Nat) (s final : Decoder) (begun : s.index = s.oldIndex)
    (weighed : s.weight = 1) (started : s.k = 36)
    (read : values.foldlM decodeDigit? s = some final) (ended : final.k = 36) :
    Grows (s.oldIndex == 0) s.bias s.point s.oldIndex s.out values final.out := by
  rcases find_number values s final (Nat.le_of_eq started.symm) read ended with ⟨rfl, rfl⟩ |
    ⟨digits, rest, n, rfl, number, room, shorter, read⟩
  · exact .done ..
  · rw [begun] at room read
    rw [weighed, started] at number
    have place : (s.oldIndex + n) % (s.out.length + 1) ≤ s.out.length :=
      Nat.lt_succ_iff.1 (Nat.mod_lt _ (Nat.succ_pos _))
    obtain ⟨before, after, split, here⟩ : ∃ before after, s.out = before ++ after ∧
        before.length = (s.oldIndex + n) % (s.out.length + 1) :=
      ⟨_, _, (List.take_append_drop _ s.out).symm, List.length_take_of_le place⟩
    rw [inserted_eq s n split here] at read
    exact .insert split number room here (grows_of_read rest _ final rfl rfl rfl read ended)
termination_by values.length

theorem read_of_grows {first : Bool} {bias point place : Nat} {text values last : List Nat}
    (grows : Grows first bias point place text values last) (s : Decoder)
    (begun : s.index = s.oldIndex) (weighed : s.weight = 1) (started : s.k = 36)
    (same : first = (s.oldIndex == 0) ∧ bias = s.bias ∧ point = s.point ∧ place = s.oldIndex ∧
      text = s.out) :
    ∃ final, values.foldlM decodeDigit? s = some final ∧ final.k = 36 ∧ final.out = last := by
  induction grows generalizing s with
  | done =>
      obtain ⟨_, _, _, _, rfl⟩ := same
      exact ⟨s, rfl, started, rfl⟩
  | @insert _ _ _ _ n _ _ _ _ rest _ split number room here grows ih =>
      obtain ⟨rfl, rfl, rfl, rfl, rfl⟩ := same
      rw [read_number number rest s rfl started weighed (begun ▸ room), begun,
        inserted_eq s n split here]
      exact ih _ rfl rfl rfl ⟨rfl, rfl, rfl, rfl, rfl⟩

def character? (n : Nat) : Option Char :=
  if h : n.isValidChar then some (Char.ofNatAux n h) else none

theorem character_iff (n : Nat) (c : Char) : character? n = some c ↔ n = c.toNat := by
  unfold character?
  by_cases valid : n.isValidChar
  · rw [dif_pos valid, Option.some.injEq]
    refine ⟨fun same => same ▸ rfl, fun same => ?_⟩
    subst same
    rfl
  · rw [dif_neg valid]
    refine ⟨fun missing => (Option.some_ne_none c missing.symm).elim, fun same => ?_⟩
    exact absurd (same ▸ c.valid) valid

theorem characters_iff (points : List Nat) (text : List Char) :
    points.mapM character? = some text ↔ points = text.map Char.toNat := by
  rw [mapM_eq_some, ← List.forall₂_eq_eq_eq, List.forall₂_map_right_iff]
  exact ⟨.imp fun n c => (character_iff n c).1, .imp fun n c => (character_iff n c).2⟩

def beforeDash (s : List Char) : List Char := (s.reverse.dropWhile (· ≠ '-')).tail.reverse

theorem before_dash_eq (basic digits : List Char) (absent : '-' ∉ digits) :
    beforeDash (basic ++ '-' :: digits) = basic := by
  have passed : ∀ c ∈ digits.reverse, decide (c ≠ '-') = true := fun c inside =>
    decide_eq_true fun same => absent (same ▸ List.mem_reverse.1 inside)
  rw [beforeDash, List.reverse_append, List.reverse_cons, List.append_assoc,
    List.dropWhile_append_of_pos passed]
  simp

theorem before_dash_absent (s : List Char) (absent : '-' ∉ s) : beforeDash s = [] := by
  have none : s.reverse.dropWhile (fun c => decide (c ≠ '-')) = [] := by
    rw [← List.append_nil s.reverse, List.dropWhile_append_of_pos]
    · rfl
    · exact fun c inside => decide_eq_true fun same => absent (same ▸ List.mem_reverse.1 inside)
  rw [beforeDash, none]
  rfl

theorem before_dash_split (s : List Char) (some_basic : beforeDash s ≠ []) :
    s = beforeDash s ++ '-' :: s.drop ((beforeDash s).length + 1) := by
  obtain ⟨c, front, found⟩ :
      ∃ c front, s.reverse.dropWhile (fun c => decide (c ≠ '-')) = c :: front := by
    refine List.exists_cons_of_ne_nil fun none => some_basic ?_
    rw [beforeDash, none]
    rfl
  have dash := List.head?_dropWhile_not (fun c => decide (c ≠ '-')) s.reverse
  rw [found] at dash
  have same : c = '-' := by simpa using dash
  have whole := List.takeWhile_append_dropWhile (p := fun c => decide (c ≠ '-')) (l := s.reverse)
  rw [found, same] at whole
  have split := congrArg List.reverse whole
  rw [List.reverse_reverse, List.reverse_append, List.reverse_cons, List.append_assoc] at split
  have before : beforeDash s = front.reverse := by
    rw [beforeDash, found]
    rfl
  have length : front.reverse.length + 1 = (front.reverse ++ ['-']).length := by simp
  rw [before, length, ← split, ← List.append_assoc, List.drop_left, List.append_assoc]
  rfl

def decodeParts? (basic digits : List Char) : Option (List Char) := do
  let values ← digits.mapM digitValue?
  let final ← values.foldlM decodeDigit? ⟨basic.map Char.toNat, 128, 72, 0, 0, 1, 36⟩
  if final.k ≠ 36 then none
  final.out.mapM character?

theorem decode_parts (s : List Char) :
    decode? s = decodeParts? (beforeDash s)
      (if beforeDash s = [] then s else s.drop ((beforeDash s).length + 1)) := rfl

theorem decode_parts_iff (basic digits text : List Char) :
    decodeParts? basic digits = some text ↔
      ∃ values, List.Forall₂ (fun c d => digitValue? c = some d) digits values ∧
        Grows true 72 128 0 (basic.map Char.toNat) values (text.map Char.toNat) := by
  simp only [decodeParts?, Option.bind_eq_bind, Option.bind_eq_some_iff, mapM_eq_some digitValue?]
  refine exists_congr fun values => and_congr_right fun _ => ?_
  constructor
  · rintro ⟨final, read, decoded⟩
    split at decoded
    · cases decoded
    · rename_i ended
      rw [← (characters_iff final.out text).1 decoded]
      exact grows_of_read values _ final rfl rfl rfl read (not_not.1 ended)
  · intro grows
    obtain ⟨final, read, ended, out⟩ :=
      read_of_grows grows ⟨basic.map Char.toNat, 128, 72, 0, 0, 1, 36⟩ rfl rfl rfl
        ⟨rfl, rfl, rfl, rfl, rfl⟩
    refine ⟨final, read, ?_⟩
    rw [if_neg (not_not_intro ended)]
    exact (characters_iff final.out text).2 out

theorem dashless {digits : List Char} {values : List Nat}
    (legal : List.Forall₂ (fun c d => digitValue? c = some d) digits values) : '-' ∉ digits := by
  intro inside
  induction legal with
  | nil => cases inside
  | cons first _ ih =>
      rcases List.mem_cons.1 inside with rfl | inside
      · have dash : digitValue? '-' = none := by decide
        cases dash.symm.trans first
      · exact ih inside

theorem spells_iff (spelling text : List Char) :
    Spells spelling text ↔ decode? spelling = some text := by
  rw [decode_parts]
  constructor
  · rintro ⟨basic, digits, values, ⟨rfl, rfl⟩ | ⟨some_basic, rfl⟩, legal, grows⟩
    · rw [before_dash_absent _ (dashless legal), if_pos rfl, decode_parts_iff]
      exact ⟨values, legal, grows⟩
    · have behind : (basic ++ '-' :: digits).drop (basic.length + 1) = digits := by simp
      rw [before_dash_eq basic digits (dashless legal), if_neg some_basic, behind,
        decode_parts_iff]
      exact ⟨values, legal, grows⟩
  · intro decoded
    obtain ⟨values, legal, grows⟩ := (decode_parts_iff _ _ text).1 decoded
    by_cases none : beforeDash spelling = []
    · rw [if_pos none] at legal
      rw [none] at grows
      exact ⟨[], spelling, values, .inl ⟨rfl, rfl⟩, legal, grows⟩
    · rw [if_neg none] at legal
      exact ⟨_, _, values, .inr ⟨none, before_dash_split spelling none⟩, legal, grows⟩

end ServiceDiscovery.Url.Punycode
