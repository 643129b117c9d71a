import Mathlib.Data.List.Forall2
import Mathlib.Data.List.TakeWhile
import ServiceDiscovery.Proofs.Http.Utf8
import ServiceDiscovery.Proofs.Text.Separator

namespace ServiceDiscovery.Http.Charset

open Text

def Lead (unit : Nat) : Prop := 0xD800 ≤ unit ∧ unit < 0xDC00
def Trail (unit : Nat) : Prop := 0xDC00 ≤ unit ∧ unit < 0xE000

def units (c : Char) : List Nat :=
  if c.toNat < 0x10000 then [c.toNat]
  else [0xD800 + (c.toNat - 0x10000) / 0x400, 0xDC00 + (c.toNat - 0x10000) % 0x400]

-- The text of bytes, two to a unit. A lead is malformed with what is left of the bytes if that is
-- no unit, and else alone.
inductive Utf16 (unit : UInt8 → UInt8 → Nat) : List UInt8 → List Char → Prop where
  | nil : Utf16 unit [] []
  | single (c : Char) {a b : UInt8} {rest : List UInt8} {text : List Char}
      (same : units c = [unit a b]) (follows : Utf16 unit rest text) :
      Utf16 unit (a :: b :: rest) (c :: text)
  | pair (c : Char) {a b d e : UInt8} {rest : List UInt8} {text : List Char}
      (same : units c = [unit a b, unit d e]) (follows : Utf16 unit rest text) :
      Utf16 unit (a :: b :: d :: e :: rest) (c :: text)
  | byte (b : UInt8) : Utf16 unit [b] ['\ufffd']
  | cut (a b : UInt8) {rest : List UInt8} (lead : Lead (unit a b)) (short : rest.length < 2) :
      Utf16 unit (a :: b :: rest) ['\ufffd']
  | trail (a b : UInt8) {rest : List UInt8} {text : List Char} (trail : Trail (unit a b))
      (follows : Utf16 unit rest text) : Utf16 unit (a :: b :: rest) ('\ufffd' :: text)
  | lead (a b : UInt8) {d e : UInt8} {rest : List UInt8} {text : List Char}
      (lead : Lead (unit a b)) (unpaired : ¬ Trail (unit d e))
      (follows : Utf16 unit (d :: e :: rest) text) :
      Utf16 unit (a :: b :: d :: e :: rest) ('\ufffd' :: text)

theorem lead_iff (unit : Nat) : isLead unit = true ↔ Lead unit := by simp [isLead, Lead]

theorem trail_iff (unit : Nat) : isTrail unit = true ↔ Trail unit := by simp [isTrail, Trail]

theorem no_trail_of_lead {unit : Nat} (lead : Lead unit) : ¬ Trail unit := fun trail =>
  Nat.not_lt.2 trail.1 lead.2

theorem valid_char (c : Char) : c.toNat < 0xD800 ∨ 0xDFFF < c.toNat ∧ c.toNat < 0x110000 := c.valid

theorem units_single {c : Char} {unit : Nat} (same : units c = [unit]) :
    ¬ Lead unit ∧ ¬ Trail unit ∧ Char.ofNat unit = c := by
  have valid := valid_char c
  unfold units at same
  split at same
  · obtain ⟨rfl, _⟩ := List.cons.inj same
    unfold Lead Trail
    exact ⟨by omega, by omega, Char.ofNat_toNat c⟩
  · cases same

theorem units_pair {c : Char} {lead trail : Nat} (same : units c = [lead, trail]) :
    Lead lead ∧ Trail trail ∧
      Char.ofNat (0x10000 + (lead - 0xD800) * 0x400 + (trail - 0xDC00)) = c := by
  have valid := valid_char c
  unfold units at same
  split at same
  · cases same
  · simp only [List.cons.injEq, and_true] at same
    obtain ⟨rfl, rfl⟩ := same
    refine ⟨⟨by omega, by omega⟩, ⟨by omega, by omega⟩, ?_⟩
    have whole : 0x10000 + (0xD800 + (c.toNat - 0x10000) / 0x400 - 0xD800) * 0x400 +
        (0xDC00 + (c.toNat - 0x10000) % 0x400 - 0xDC00) = c.toNat := by omega
    rw [whole, Char.ofNat_toNat]

theorem toNat_of_valid {n : Nat} (valid : n.isValidChar) : (Char.ofNat n).toNat = n := by
  rw [Char.ofNat, dif_pos valid]
  rfl

theorem units_of_plain {unit : Nat} (small : unit < 0x10000) (lead : ¬ Lead unit)
    (trail : ¬ Trail unit) : units (Char.ofNat unit) = [unit] := by
  unfold Lead at lead
  unfold Trail at trail
  rw [units, toNat_of_valid (by unfold Nat.isValidChar; omega), if_pos small]

theorem units_of_halves {lead trail : Nat} (one : Lead lead) (two : Trail trail) :
    units (Char.ofNat (0x10000 + (lead - 0xD800) * 0x400 + (trail - 0xDC00))) = [lead, trail] := by
  obtain ⟨least, most⟩ := one
  obtain ⟨lower, upper⟩ := two
  rw [units, toNat_of_valid (by unfold Nat.isValidChar; omega), if_neg (by omega)]
  simp only [List.cons.injEq, and_true]
  omega

section

variable {unit : UInt8 → UInt8 → Nat}

theorem decode_trail {a b : UInt8} (trail : Trail (unit a b)) (rest : List UInt8) :
    decodeUtf16From unit none (a :: b :: rest) =
      '\ufffd' :: decodeUtf16From unit none rest := by
  have lead : ¬ isLead (unit a b) = true := fun lead =>
    no_trail_of_lead ((lead_iff _).1 lead) trail
  rw [decodeUtf16From, if_neg lead, if_pos ((trail_iff _).2 trail)]
  rfl

theorem decode_lead {a b : UInt8} (lead : Lead (unit a b)) (rest : List UInt8) :
    decodeUtf16From unit none (a :: b :: rest) = decodeUtf16From unit (some (unit a b)) rest := by
  rw [decodeUtf16From]
  exact if_pos ((lead_iff _).2 lead)

theorem decode_plain {a b : UInt8} (lead : ¬ Lead (unit a b)) (trail : ¬ Trail (unit a b))
    (rest : List UInt8) :
    decodeUtf16From unit none (a :: b :: rest) =
      Char.ofNat (unit a b) :: decodeUtf16From unit none rest := by
  rw [decodeUtf16From, if_neg (mt (lead_iff _).1 lead), if_neg (mt (trail_iff _).1 trail)]

theorem decode_pair {half : Nat} {a b : UInt8} (trail : Trail (unit a b)) (rest : List UInt8) :
    decodeUtf16From unit (some half) (a :: b :: rest) =
      Char.ofNat (0x10000 + (half - 0xD800) * 0x400 + (unit a b - 0xDC00)) ::
        decodeUtf16From unit none rest := by
  rw [decodeUtf16From]
  exact if_pos ((trail_iff _).2 trail)

theorem decode_unpaired {half : Nat} {a b : UInt8} (trail : ¬ Trail (unit a b))
    (rest : List UInt8) :
    decodeUtf16From unit (some half) (a :: b :: rest) =
      '\ufffd' :: decodeUtf16From unit none (a :: b :: rest) := by
  have unpaired := mt (trail_iff (unit a b)).1 trail
  by_cases lead : Lead (unit a b)
  · rw [decode_lead lead, decodeUtf16From, if_neg unpaired, if_pos ((lead_iff _).2 lead)]
    rfl
  · rw [decode_plain lead trail, decodeUtf16From, if_neg unpaired,
      if_neg (mt (lead_iff _).1 lead)]
    rfl

theorem decode_cut (half : Option Nat) (b : UInt8) :
    decodeUtf16From unit half [b] = ['\ufffd'] := by
  cases half with
  | none => rfl
  | some half => rfl

theorem decode_of_utf16 {bytes : List UInt8} {text : List Char} (utf16 : Utf16 unit bytes text) :
    decodeUtf16From unit none bytes = text := by
  induction utf16 with
  | nil => rfl
  | single c same follows ih =>
      obtain ⟨lead, trail, rfl⟩ := units_single same
      rw [decode_plain lead trail, ih]
  | pair c same follows ih =>
      obtain ⟨lead, trail, rfl⟩ := units_pair same
      rw [decode_lead lead, decode_pair trail, ih]
  | byte b => exact decode_cut none b
  | @cut a b rest lead short =>
      rw [decode_lead lead]
      match rest, short with
      | [], _ => rfl
      | [b], _ => exact decode_cut _ b
  | trail a b trail follows ih => rw [decode_trail trail, ih]
  | lead a b lead unpaired follows ih => rw [decode_lead lead, decode_unpaired unpaired, ih]

theorem utf16_of_bytes (small : ∀ a b, unit a b < 0x10000) : ∀ bytes : List UInt8,
    Utf16 unit bytes (decodeUtf16From unit none bytes) ∧
      ∀ a b, Lead (unit a b) →
        Utf16 unit (a :: b :: bytes) (decodeUtf16From unit (some (unit a b)) bytes)
  | [] => ⟨.nil, fun a b lead => .cut a b lead Nat.two_pos⟩
  | [last] => by
      rw [decode_cut]
      refine ⟨.byte last, fun a b lead => ?_⟩
      rw [decode_cut]
      exact .cut a b lead Nat.one_lt_two
  | d :: e :: rest => by
      obtain ⟨plain, pending⟩ := utf16_of_bytes small rest
      have whole : Utf16 unit (d :: e :: rest) (decodeUtf16From unit none (d :: e :: rest)) := by
        by_cases lead : Lead (unit d e)
        · rw [decode_lead lead]
          exact pending d e lead
        · by_cases trail : Trail (unit d e)
          · rw [decode_trail trail]
            exact .trail d e trail plain
          · rw [decode_plain lead trail]
            exact .single _ (units_of_plain (small d e) lead trail) plain
      refine ⟨whole, fun a b lead => ?_⟩
      by_cases trail : Trail (unit d e)
      · rw [decode_pair trail]
        exact .pair _ (units_of_halves lead trail) plain
      · rw [decode_unpaired trail]
        exact .lead a b lead trail whole

theorem utf16_iff (small : ∀ a b, unit a b < 0x10000) (bytes : List UInt8) (text : List Char) :
    Utf16 unit bytes text ↔ decodeUtf16From unit none bytes = text := by
  refine ⟨decode_of_utf16, ?_⟩
  rintro rfl
  exact (utf16_of_bytes small bytes).1

end

theorem little_endian_small (a b : UInt8) : littleEndian a b < 0x10000 := by
  have low := a.toNat_lt
  have high := b.toNat_lt
  unfold littleEndian
  omega

theorem big_endian_small (a b : UInt8) : bigEndian a b < 0x10000 := by
  have high := a.toNat_lt
  have low := b.toNat_lt
  unfold bigEndian
  omega

def windows1252Text : String :=
  "€\x81‚ƒ„…†‡ˆ‰Š‹Œ\x8dŽ\x8f\x90‘’“”•–—˜™š›œ\x9džŸ"

def Windows1252 (b : UInt8) (c : Char) : Prop :=
  (b.toNat < 0x80 ∨ 0xA0 ≤ b.toNat) ∧ c.toNat = b.toNat ∨
    ∃ i, b.toNat = 0x80 + i ∧ windows1252Text.toList[i]? = some c

theorem windows1252_iff (b : UInt8) (c : Char) : Windows1252 b c ↔ windows1252Char b = c := by
  have outside : ∀ n < 256, n < 0x80 ∨ 0xA0 ≤ n →
      windows1252Char (.ofNat n) = Char.ofNat n := by decide +kernel
  have inside : ∀ i < 32,
      windows1252Text.toList[i]? = some (windows1252Char (.ofNat (0x80 + i))) := by decide +kernel
  have length : windows1252Text.toList.length = 32 := by decide +kernel
  have byte : UInt8.ofNat b.toNat = b := UInt8.ofNat_toNat
  constructor
  · rintro (⟨plain, same⟩ | ⟨i, there, found⟩)
    · rw [← byte, outside _ b.toNat_lt plain, ← same, Char.ofNat_toNat]
    · have some_place := (List.getElem?_eq_some_iff.1 found).1
      rw [length] at some_place
      rw [inside i some_place, ← there, byte] at found
      exact Option.some.inj found
  · rintro rfl
    by_cases plain : b.toNat < 0x80 ∨ 0xA0 ≤ b.toNat
    · have same := outside _ b.toNat_lt plain
      rw [byte] at same
      rw [same]
      exact .inl ⟨plain, toNat_of_valid (.inl (Nat.lt_trans b.toNat_lt (by decide)))⟩
    · have there : 0x80 + (b.toNat - 0x80) = b.toNat := by omega
      have found := inside (b.toNat - 0x80) (by omega)
      rw [there, byte] at found
      exact .inr ⟨b.toNat - 0x80, there.symm, found⟩

-- In whatever case and with blanks around it, a label names the first encoding that has it.
def Names (label : List Char) (charset : Charset) : Prop :=
  ∃ front core back name, label = front ++ core ++ back ∧ core.map lowerChar = name.toList ∧
    (∀ c ∈ front, isLabelBlank c = true) ∧ (∀ c ∈ back, isLabelBlank c = true) ∧
    (∀ c ∈ core.head?, isLabelBlank c = false) ∧ (∀ c ∈ core.getLast?, isLabelBlank c = false) ∧
    ∃ before names after, labels = before ++ (charset, names) :: after ∧ name ∈ names ∧
      ∀ other ∈ before, name ∉ other.2

def trimLabel (label : List Char) : List Char :=
  ((label.dropWhile isLabelBlank).reverse.dropWhile isLabelBlank).reverse

theorem unblank_first (s : List Char) :
    ∀ c ∈ (s.dropWhile isLabelBlank).head?, isLabelBlank c = false := by
  intro c first
  have unblank := List.head?_dropWhile_not isLabelBlank s
  rw [Option.mem_def.1 first] at unblank
  exact unblank

theorem drop_unblank (s : List Char) (first : ∀ c ∈ s.head?, isLabelBlank c = false) :
    s.dropWhile isLabelBlank = s := by
  cases s with
  | nil => rfl
  | cons c rest => exact List.dropWhile_cons_of_neg (by simp [first c rfl])

theorem trim_label_split (label : List Char) :
    ∃ front back, label = front ++ trimLabel label ++ back ∧
      (∀ c ∈ front, isLabelBlank c = true) ∧ (∀ c ∈ back, isLabelBlank c = true) ∧
      (∀ c ∈ (trimLabel label).head?, isLabelBlank c = false) ∧
      ∀ c ∈ (trimLabel label).getLast?, isLabelBlank c = false := by
  have behind : trimLabel label ++
      ((label.dropWhile isLabelBlank).reverse.takeWhile isLabelBlank).reverse =
        label.dropWhile isLabelBlank := by
    rw [trimLabel, ← List.reverse_append, List.takeWhile_append_dropWhile, List.reverse_reverse]
  refine ⟨label.takeWhile isLabelBlank,
    ((label.dropWhile isLabelBlank).reverse.takeWhile isLabelBlank).reverse, ?_,
    fun c inside => List.mem_takeWhile_imp inside,
    fun c inside => List.mem_takeWhile_imp (List.mem_reverse.1 inside), fun c first => ?_, ?_⟩
  · rw [List.append_assoc, behind, List.takeWhile_append_dropWhile]
  · refine unblank_first label c ?_
    rw [← behind, List.head?_append, Option.mem_def.1 first]
    rfl
  · rw [trimLabel, List.getLast?_reverse]
    exact unblank_first _

theorem trim_label_around (front core back : List Char)
    (before : ∀ c ∈ front, isLabelBlank c = true) (behind : ∀ c ∈ back, isLabelBlank c = true)
    (first : ∀ c ∈ core.head?, isLabelBlank c = false)
    (last : ∀ c ∈ core.getLast?, isLabelBlank c = false) :
    trimLabel (front ++ core ++ back) = core := by
  rw [trimLabel, drop_around front core back before behind, drop_unblank core first,
    drop_unblank _ (List.head?_reverse ▸ last), List.reverse_reverse]

theorem plain_label_iff (label : List Char) (name : String) :
    plainLabel label = name ↔
      ∃ front core back, label = front ++ core ++ back ∧ core.map lowerChar = name.toList ∧
        (∀ c ∈ front, isLabelBlank c = true) ∧ (∀ c ∈ back, isLabelBlank c = true) ∧
        (∀ c ∈ core.head?, isLabelBlank c = false) ∧
        ∀ c ∈ core.getLast?, isLabelBlank c = false := by
  have trimmed : plainLabel label = .ofList ((trimLabel label).map lowerChar) := rfl
  rw [trimmed, ← String.toList_inj, String.toList_ofList]
  constructor
  · intro same
    obtain ⟨front, back, split, around⟩ := trim_label_split label
    exact ⟨front, _, back, split, same, around⟩
  · rintro ⟨front, core, back, rfl, same, before, behind, first, last⟩
    rw [trim_label_around front core back before behind first last, same]

theorem names_iff (label : List Char) (charset : Charset) :
    Names label charset ↔ ofLabel? label = some charset := by
  rw [ofLabel?, Option.map_eq_some_iff]
  simp only [List.find?_eq_some_iff_append, List.contains_iff_mem, Bool.not_eq_true',
    Bool.eq_false_iff, ne_eq]
  constructor
  · rintro ⟨front, core, back, name, split, same, blank, behind, first, last, before, names, after,
      listed, inside, others⟩
    obtain rfl := (plain_label_iff label name).2
      ⟨front, core, back, split, same, blank, behind, first, last⟩
    exact ⟨(charset, names), ⟨inside, before, after, listed, others⟩, rfl⟩
  · rintro ⟨⟨_, names⟩, ⟨inside, before, after, listed, others⟩, rfl⟩
    obtain ⟨front, core, back, split, same, blank, behind, first, last⟩ :=
      (plain_label_iff label _).1 rfl
    exact ⟨front, core, back, _, split, same, blank, behind, first, last, before, names, after,
      listed, inside, others⟩

def Reads (tables : Tables) : Charset → List UInt8 → List Char → Prop
  | .utf8, bytes, text => Utf8 bytes text
  | .utf16le, bytes, text => Utf16 (fun low high => low.toNat + 256 * high.toNat) bytes text
  | .utf16be, bytes, text => Utf16 (fun high low => 256 * high.toNat + low.toNat) bytes text
  | .windows1252, bytes, text => List.Forall₂ Windows1252 bytes text
  | .table name, bytes, text => text = tables name bytes

def marks : List (List UInt8 × Charset) :=
  [([0xEF, 0xBB, 0xBF], .utf8), ([0xFF, 0xFE], .utf16le), ([0xFE, 0xFF], .utf16be)]

-- A mark in front of the bytes decides how the others are read.
def Decodes (tables : Tables) (charset : Charset) (bytes : List UInt8) (text : List Char) : Prop :=
  (∃ mark marked rest, (mark, marked) ∈ marks ∧ bytes = mark ++ rest ∧
    Reads tables marked rest text) ∨
  (∀ mark marked, (mark, marked) ∈ marks → ¬ mark <+: bytes) ∧ Reads tables charset bytes text

theorem reads_iff (tables : Tables) (charset : Charset) (bytes : List UInt8) (text : List Char) :
    Reads tables charset bytes text ↔ charset.decodeAs tables bytes = text := by
  cases charset with
  | utf8 => exact utf8_iff bytes text
  | utf16le => exact utf16_iff little_endian_small bytes text
  | utf16be => exact utf16_iff big_endian_small bytes text
  | windows1252 =>
      have alike : Windows1252 = fun b c => windows1252Char b = c :=
        funext fun b => funext fun c => propext (windows1252_iff b c)
      rw [Reads, decodeAs, alike, ← List.forall₂_map_left_iff (f := windows1252Char),
        List.forall₂_eq_eq_eq]
  | table name => exact eq_comm

theorem decode_marked {mark : List UInt8} {marked : Charset} (known : (mark, marked) ∈ marks)
    (tables : Tables) (charset : Charset) (rest : List UInt8) :
    charset.decode tables (mark ++ rest) = marked.decodeAs tables rest := by
  simp only [marks, List.mem_cons, Prod.mk.injEq, List.not_mem_nil, or_false] at known
  obtain ⟨rfl, rfl⟩ | ⟨rfl, rfl⟩ | ⟨rfl, rfl⟩ := known
  · rfl
  · rfl
  · rfl

theorem decode_unmarked {bytes : List UInt8}
    (unmarked : ∀ mark marked, (mark, marked) ∈ marks → ¬ mark <+: bytes) (tables : Tables)
    (charset : Charset) : charset.decode tables bytes = charset.decodeAs tables bytes := by
  unfold decode
  split
  · exact absurd ⟨_, rfl⟩ (unmarked [0xEF, 0xBB, 0xBF] .utf8 (by decide))
  · exact absurd ⟨_, rfl⟩ (unmarked [0xFF, 0xFE] .utf16le (by decide))
  · exact absurd ⟨_, rfl⟩ (unmarked [0xFE, 0xFF] .utf16be (by decide))
  · rfl

theorem decodes_iff (tables : Tables) (charset : Charset) (bytes : List UInt8)
    (text : List Char) :
    Decodes tables charset bytes text ↔ charset.decode tables bytes = text := by
  by_cases some_mark : ∃ mark marked, (mark, marked) ∈ marks ∧ mark <+: bytes
  · obtain ⟨mark, marked, known, rest, rfl⟩ := some_mark
    rw [decode_marked known, ← reads_iff]
    constructor
    · rintro (⟨other, charset, others, listed, same, reads⟩ | ⟨unmarked, _⟩)
      · rw [reads_iff, ← decode_marked listed tables charset, ← same, decode_marked known,
          ← reads_iff] at reads
        exact reads
      · exact absurd ⟨rest, rfl⟩ (unmarked mark marked known)
    · exact fun reads => .inl ⟨mark, marked, rest, known, rfl, reads⟩
  · have unmarked : ∀ mark marked, (mark, marked) ∈ marks → ¬ mark <+: bytes :=
      fun mark marked known starts => some_mark ⟨mark, marked, known, starts⟩
    rw [decode_unmarked unmarked, ← reads_iff]
    constructor
    · rintro (⟨mark, marked, rest, known, same, _⟩ | ⟨_, reads⟩)
      · exact absurd ⟨rest, same.symm⟩ (unmarked mark marked known)
      · exact reads
    · exact fun reads => .inr ⟨unmarked, reads⟩

end ServiceDiscovery.Http.Charset
