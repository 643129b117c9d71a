import ServiceDiscovery.Proofs.Url.Address
import ServiceDiscovery.Proofs.Url.Punycode

namespace ServiceDiscovery.Url.Domain

open Text

-- What a label in ASCII is read as: itself, unless it is marked as the spelling of a label in
-- another script. That label is one that is compared as it is and may stand in a name.
inductive LabelText : List Char → List Char → Prop where
  | plain {label : List Char} (unmarked : ¬ spellingStart <+: label) : LabelText label label
  | spelled {front text : List Char} {last : Char} (ended : last ≠ '-')
      (short : front.length < maxSpelling) (spells : Punycode.Spells (front ++ [last]) text)
      (kept : ∀ c ∈ text, isKept c = true) (whole : composed text = text)
      (bounded : text.length ≤ maxLabel) (started : ∀ c ∈ text.head?, isMark c = false)
      (joined : joinersFit [] text = true) :
      LabelText (spellingStart ++ (front ++ [last])) text

-- A name in ASCII of labels that all can be read, and that all keep their direction where one of
-- them is written from right to left.
def IsSpelled (name : String) : Prop :=
  ∃ labels texts, labels ≠ [] ∧ name.toList = ['.'].intercalate labels ∧
    (∀ label ∈ labels, '.' ∉ label) ∧ List.Forall₂ LabelText labels texts ∧
    ((∃ text ∈ texts, ∃ c ∈ text, isRightward c = true) →
      ∀ text ∈ texts, keepsDirection text = true)

def isSpelled (name : String) : Bool :=
  ((splitOnChar '.' name.toList).mapM Label.of?).any keepDirections

theorem rightward_ascii (c : Char) (ascii : c.toNat < 128) : isRightward c = false := by
  refine forall_ascii (p := fun c => isRightward c = false) ?_ c ascii
  decide +kernel

theorem label_ascii (part : List Char) (label : Label) (ascii : ∀ c ∈ part, c.toNat < 128)
    (read : Label.of? part = some label) : label.ascii = part := by
  have plain : isAscii part = true := List.all_eq_true.2 fun c inside =>
    decide_eq_true (ascii c inside)
  rw [Label.of?] at read
  split at read
  · simp only [Label.ofSpelling?, Option.bind_eq_bind] at read
    split at read
    · cases read
    · obtain ⟨text, _, read⟩ := Option.bind_eq_some_iff.1 read
      split at read
      · cases read
        rfl
      · cases read
  · rw [Label.ofText?, if_pos plain] at read
    cases read
    rfl

theorem well_formed_iff (text : List Char) :
    isWellFormed text = true ↔ text.length ≤ maxLabel ∧ (∀ c ∈ text.head?, isMark c = false) ∧
      joinersFit [] text = true := by
  cases text <;> simp [isWellFormed, and_assoc]

theorem folded_iff (text : List Char) :
    isFolded text = true ↔ (∀ c ∈ text, isKept c = true) ∧ composed text = text := by
  simp [isFolded]

theorem of_spelling_iff (label spelling text : List Char) (ascii : isAscii label = true) :
    Label.ofSpelling? label spelling = some ⟨text, label⟩ ↔
      ∃ front last, spelling = front ++ [last] ∧ last ≠ '-' ∧ front.length < maxSpelling ∧
        Punycode.Spells spelling text ∧ isFolded text = true ∧ isWellFormed text = true := by
  rcases List.eq_nil_or_concat spelling with rfl | ⟨front, last, rfl⟩
  · refine iff_of_false ?_ ?_
    · simp [Label.ofSpelling?]
    · rintro ⟨front, last, same, _⟩
      exact List.cons_ne_nil _ _ (List.append_eq_nil_iff.1 same.symm).2
  · rw [List.concat_eq_append]
    have fits : (¬ isAscii label ∨ (front ++ [last]).getLast?.all (· == '-') ∨
        maxSpelling < (front ++ [last]).length) ↔ ¬ (last ≠ '-' ∧ front.length < maxSpelling) := by
      rw [List.getLast?_concat, List.length_append, List.length_singleton, not_and_or, not_not,
        Nat.not_lt]
      simp only [ascii, not_true, false_or, Option.all_some, beq_iff_eq, Nat.lt_add_one_iff]
    simp only [Label.ofSpelling?, fits, Option.bind_eq_bind, ite_not]
    constructor
    · intro read
      split at read
      · rename_i legal
        obtain ⟨found, decoded, read⟩ := Option.bind_eq_some_iff.1 read
        split at read
        · rename_i formed
          cases read
          exact ⟨front, last, rfl, legal.1, legal.2, (Punycode.spells_iff _ _).2 decoded, formed⟩
        · cases read
      · cases read
    · rintro ⟨front', last', same, ended, short, spells, formed⟩
      obtain ⟨rfl, rfl⟩ : front = front' ∧ last = last' := by simpa using same
      rw [if_pos ⟨ended, short⟩, (Punycode.spells_iff _ _).1 spells, Option.bind_some,
        if_pos formed]

theorem label_text_iff (label text : List Char) (ascii : ∀ c ∈ label, c.toNat < 128) :
    LabelText label text ↔ Label.of? label = some ⟨text, label⟩ := by
  have plain : isAscii label = true := List.all_eq_true.2 fun c inside =>
    decide_eq_true (ascii c inside)
  constructor
  · rintro (⟨unmarked⟩ | ⟨ended, short, spells, kept, whole, bounded, started, joined⟩)
    · have other : spellingStart.isPrefixOf label = false :=
        Bool.eq_false_iff.2 (mt List.isPrefixOf_iff_prefix.1 unmarked)
      rw [Label.of?, other, if_neg Bool.false_ne_true, Label.ofText?, if_pos plain]
    · rw [Label.of?, if_pos (List.isPrefixOf_iff_prefix.2 (List.prefix_append _ _)),
        List.drop_left, of_spelling_iff _ _ _ plain]
      exact ⟨_, _, rfl, ended, short, spells, (folded_iff text).2 ⟨kept, whole⟩,
        (well_formed_iff text).2 ⟨bounded, started, joined⟩⟩
  · intro read
    rw [Label.of?] at read
    split at read
    · rename_i marked
      obtain ⟨spelling, rfl⟩ := List.isPrefixOf_iff_prefix.1 marked
      rw [List.drop_left, of_spelling_iff _ _ _ plain] at read
      obtain ⟨front, last, rfl, ended, short, spells, folded, formed⟩ := read
      obtain ⟨kept, whole⟩ := (folded_iff text).1 folded
      obtain ⟨bounded, started, joined⟩ := (well_formed_iff text).1 formed
      exact .spelled ended short spells kept whole bounded started joined
    · rename_i other
      rw [Label.ofText?, if_pos plain] at read
      cases read
      exact .plain (mt List.isPrefixOf_iff_prefix.2 other)

theorem labels_ascii (parts : List (List Char)) (labels : List Label)
    (ascii : ∀ part ∈ parts, ∀ c ∈ part, c.toNat < 128)
    (read : parts.mapM Label.of? = some labels) : labels.map (·.ascii) = parts := by
  induction parts generalizing labels with
  | nil =>
      cases read
      rfl
  | cons part parts ih =>
      obtain ⟨first, others⟩ := List.forall_mem_cons.1 ascii
      simp only [List.mapM_cons, Option.bind_eq_bind, Option.bind_eq_some_iff] at read
      obtain ⟨label, head, rest, tail, same⟩ := read
      cases same
      rw [List.map_cons, label_ascii part label first head, ih rest others tail]

theorem mem_of_split (separator c : Char) (s part : List Char) (inside : c ∈ part)
    (there : part ∈ splitOnChar separator s) : c ∈ s := by
  induction s generalizing part with
  | nil =>
      rw [splitOnChar, List.mem_singleton] at there
      rw [there] at inside
      cases inside
  | cons d s ih =>
      rw [splitOnChar] at there
      split at there
      · rcases List.mem_cons.1 there with rfl | there
        · cases inside
        · exact List.mem_cons_of_mem d (ih part inside there)
      · split at there
        · rw [List.mem_singleton.1 there, List.mem_singleton] at inside
          rw [inside]
          exact List.mem_cons_self
        · rename_i first rest split
          rcases List.mem_cons.1 there with rfl | there
          · rcases List.mem_cons.1 inside with rfl | inside
            · exact List.mem_cons_self
            · exact List.mem_cons_of_mem d (ih first inside (split ▸ List.mem_cons_self))
          · exact List.mem_cons_of_mem d (ih part inside (split ▸ List.mem_cons_of_mem _ there))

theorem ascii_name (name : List Char) (ascii : ∀ c ∈ name, c.toNat < 128) :
    (do
      let labels ← (splitOnChar '.' name).mapM Label.of?
      if keepDirections labels then some (['.'].intercalate (labels.map (·.ascii))) else none) =
      if ((splitOnChar '.' name).mapM Label.of?).any keepDirections then some name else none := by
  cases read : (splitOnChar '.' name).mapM Label.of? with
  | none => rfl
  | some labels =>
      have spelled := labels_ascii _ labels
        (fun part there c inside => ascii c (mem_of_split '.' c name part inside there)) read
      rw [Option.bind_eq_bind, Option.bind_some, spelled, intercalate_split, Option.any_some]

theorem texts_iff (labels texts : List (List Char))
    (ascii : ∀ label ∈ labels, ∀ c ∈ label, c.toNat < 128) :
    List.Forall₂ LabelText labels texts ↔
      ∃ found, labels.mapM Label.of? = some found ∧ found.map (·.text) = texts := by
  induction labels generalizing texts with
  | nil => simp [eq_comm]
  | cons label labels ih =>
      obtain ⟨first, others⟩ := List.forall_mem_cons.1 ascii
      simp only [List.forall₂_cons_left_iff, List.mapM_cons, Option.bind_eq_bind,
        Option.bind_eq_some_iff, Option.pure_def, Option.some.injEq, ih _ others,
        label_text_iff label _ first]
      constructor
      · rintro ⟨text, texts, read, ⟨found, there, rfl⟩, rfl⟩
        exact ⟨_, ⟨_, read, _, there, rfl⟩, rfl⟩
      · rintro ⟨_, ⟨⟨text, spelling⟩, read, found, there, rfl⟩, rfl⟩
        obtain rfl : spelling = label := label_ascii label _ first read
        exact ⟨text, _, read, ⟨found, there, rfl⟩, rfl⟩

theorem keep_directions_iff (labels : List Label) :
    keepDirections labels = true ↔
      ((∃ text ∈ labels.map (·.text), ∃ c ∈ text, isRightward c = true) →
        ∀ text ∈ labels.map (·.text), keepsDirection text = true) := by
  rw [keepDirections, Bool.or_eq_true, imp_iff_not_or]
  refine or_congr ?_ ?_
  · simp
  · simp

theorem spelled_iff (name : String) (ascii : ∀ c ∈ name.toList, c.toNat < 128) :
    IsSpelled name ↔ isSpelled name = true := by
  have parts (label : List Char) (there : label ∈ splitOnChar '.' name.toList) :
      ∀ c ∈ label, c.toNat < 128 := fun c inside =>
    ascii c (mem_of_split '.' c name.toList label inside there)
  rw [isSpelled, Option.any_eq_true]
  constructor
  · rintro ⟨labels, texts, written, same, undotted, readable, direction⟩
    obtain ⟨label, labels, rfl⟩ := List.exists_cons_of_ne_nil written
    rw [same, split_on_char_intercalate '.' label labels undotted] at parts ⊢
    obtain ⟨found, read, rfl⟩ := (texts_iff _ _ parts).1 readable
    exact ⟨found, read, (keep_directions_iff found).2 direction⟩
  · rintro ⟨found, read, direction⟩
    exact ⟨_, _, split_on_char_ne_nil _ _, (intercalate_split '.' name.toList).symm,
      split_absent '.' name.toList, (texts_iff _ _ parts).2 ⟨found, read, rfl⟩,
      (keep_directions_iff found).1 direction⟩

end ServiceDiscovery.Url.Domain
