import Mathlib.Data.List.Nodup
import ServiceDiscovery.Toml.Parser

namespace ServiceDiscovery.Toml

def Value.isScalar : Value → Bool
  | .array _ | .tables _ | .table _ _ => false
  | _ => true

inductive Distinct : Value → Prop where
  | scalar (v : Value) (simple : v.isScalar = true) : Distinct v
  | array (items : List Value) (each : ∀ item ∈ items, Distinct item) : Distinct (.array items)
  | tables (items : List Value) (each : ∀ item ∈ items, Distinct item) : Distinct (.tables items)
  | table (origin : Origin) (entries : Entries) (keys : (entries.map Prod.fst).Nodup)
      (values : ∀ entry ∈ entries, Distinct entry.2) : Distinct (.table origin entries)

structure Keyed (entries : Entries) : Prop where
  keys : (entries.map Prod.fst).Nodup
  values : ∀ entry ∈ entries, Distinct entry.2

theorem keyed_nil : Keyed [] := ⟨List.nodup_nil, fun _ inside => absurd inside List.not_mem_nil⟩

theorem keyed_table_iff (origin : Origin) (entries : Entries) :
    Distinct (.table origin entries) ↔ Keyed entries := by
  constructor
  · intro distinct
    cases distinct with
    | scalar _ simple => cases simple
    | table _ _ keys values => exact ⟨keys, values⟩
  · rintro ⟨keys, values⟩
    exact .table origin entries keys values

theorem distinct_of_tables {items : List Value} (distinct : Distinct (.tables items)) :
    ∀ item ∈ items, Distinct item := by
  cases distinct with
  | scalar _ simple => cases simple
  | tables _ each => exact each

section

variable {entries : Entries} {key : String} {v : Value}

theorem mem_of_lookup (found : entries.lookup key = some v) : (key, v) ∈ entries := by
  obtain ⟨before, after, rfl, _⟩ := List.lookup_eq_some_iff.1 found
  exact List.mem_append_right before List.mem_cons_self

theorem lookup_of_mem (distinct : (entries.map Prod.fst).Nodup) (inside : (key, v) ∈ entries) :
    entries.lookup key = some v := by
  induction entries with
  | nil => cases inside
  | cons entry rest ih =>
      obtain ⟨absent, distinct⟩ := List.nodup_cons.1 distinct
      rcases List.mem_cons.1 inside with rfl | later
      · rw [List.lookup_cons_self]
      · have different : key ≠ entry.1 := fun same =>
          absent (same ▸ List.mem_map_of_mem later)
        rw [List.lookup_cons, beq_false_of_ne different]
        exact ih distinct later

theorem key_of_lookup (found : entries.lookup key = some v) : key ∈ entries.map Prod.fst :=
  List.mem_map_of_mem (mem_of_lookup found)

theorem not_key_of_lookup (missing : entries.lookup key = none) :
    key ∉ entries.map Prod.fst := by
  intro there
  obtain ⟨entry, inside, rfl⟩ := List.mem_map.1 there
  simpa using List.lookup_eq_none_iff.1 missing entry inside

theorem keys_put (there : key ∈ entries.map Prod.fst) :
    (entries.put key v).map Prod.fst = entries.map Prod.fst := by
  induction entries with
  | nil => cases there
  | cons entry rest ih =>
      obtain ⟨k, old⟩ := entry
      by_cases same : k = key
      · rw [Entries.put, if_pos same]
        rfl
      · rw [Entries.put, if_neg same, List.map_cons, List.map_cons, ih]
        exact (List.mem_cons.1 there).resolve_left (Ne.symm same)

theorem mem_put_or {entry : String × Value} (inside : entry ∈ entries.put key v) :
    entry = (key, v) ∨ entry ∈ entries := by
  induction entries with
  | nil => exact .inl (List.mem_singleton.1 inside)
  | cons first rest ih =>
      obtain ⟨k, old⟩ := first
      by_cases same : k = key
      · rw [Entries.put, if_pos same, same] at inside
        exact (List.mem_cons.1 inside).imp_right (List.mem_cons_of_mem _)
      · rw [Entries.put, if_neg same] at inside
        rcases List.mem_cons.1 inside with rfl | later
        · exact .inr List.mem_cons_self
        · exact (ih later).imp_right (List.mem_cons_of_mem _)

theorem keyed_snoc (keyed : Keyed entries) (missing : entries.lookup key = none)
    (distinct : Distinct v) : Keyed (entries ++ [(key, v)]) where
  keys := by
    rw [List.map_append, List.map_singleton, ← List.concat_eq_append]
    exact keyed.keys.concat (not_key_of_lookup missing)
  values entry inside := by
    rcases List.mem_append.1 inside with there | new
    · exact keyed.values entry there
    · rw [List.mem_singleton.1 new]
      exact distinct

theorem keyed_put (keyed : Keyed entries) (there : key ∈ entries.map Prod.fst)
    (distinct : Distinct v) : Keyed (entries.put key v) where
  keys := by
    rw [keys_put there]
    exact keyed.keys
  values entry inside := by
    rcases mem_put_or inside with rfl | old
    · exact distinct
    · exact keyed.values entry old

end

def Keeps (change : Change) : Prop :=
  ∀ origin entries made left, change origin entries = some (made, left) → Keyed entries → Keyed left

section

variable {change : Change} {entries : Entries} {key : String}

-- The inner table is new, or one of a value that the outer table holds already.
theorem keyed_after (keeps : Keeps change) {origin made : Origin} {inner left : Entries}
    (changed : change origin inner = some (made, left)) (old : Distinct (.table origin inner)) :
    Distinct (.table made left) :=
  (keyed_table_iff made left).2
    (keeps origin inner made left changed ((keyed_table_iff origin inner).1 old))

theorem keeps_along (keeps : Keeps change) (dotted : Bool) (path : List String) :
    Keeps (change.along dotted path) := by
  induction path with
  | nil => exact keeps
  | cons key path ih =>
      intro origin entries made left changed keyed
      rw [Change.along] at changed
      split at changed
      · rename_i missing
        obtain ⟨⟨o, e⟩, inner, same⟩ := Option.bind_eq_some_iff.1 changed
        cases same
        have fresh := (keyed_table_iff (if dotted then .dotted else .implied) []).2 keyed_nil
        exact keyed_snoc keyed missing (keyed_after ih inner fresh)
      · rename_i o e found
        split at changed
        · cases changed
        · obtain ⟨⟨o', e'⟩, inner, same⟩ := Option.bind_eq_some_iff.1 changed
          cases same
          have old := keyed.values _ (mem_of_lookup found)
          exact keyed_put keyed (key_of_lookup found) (keyed_after ih inner old)
      · rename_i items found
        split at changed
        · rename_i o e last
          obtain ⟨⟨o', e'⟩, inner, same⟩ := Option.bind_eq_some_iff.1 changed
          cases same
          have each := distinct_of_tables (keyed.values _ (mem_of_lookup found))
          have old := each _ (List.mem_of_getLast? last)
          refine keyed_put keyed (key_of_lookup found) (.tables _ fun item inside => ?_)
          rcases List.mem_append.1 inside with earlier | new
          · exact each item (List.dropLast_subset items earlier)
          · rw [List.mem_singleton.1 new]
            exact keyed_after ih inner old
        · cases changed
      · cases changed

theorem keeps_assign (path : List String) (key : String) (v : Value) (distinct : Distinct v) :
    Keeps (assign path key v) := by
  refine keeps_along (fun origin entries made left changed keyed => ?_) true path
  split at changed
  · cases changed
  · rename_i fitting
    cases changed
    have missing := Option.not_isSome_iff_eq_none.1 (not_or.1 fitting).2
    exact keyed_snoc keyed missing distinct

theorem keeps_open_table (path : List String) (key : String) : Keeps (openTable path key) := by
  refine keeps_along (fun origin entries made left changed keyed => ?_) false path
  split at changed
  · rename_i missing
    cases changed
    exact keyed_snoc keyed missing ((keyed_table_iff .header []).2 keyed_nil)
  · rename_i e found
    cases changed
    have old := keyed.values _ (mem_of_lookup found)
    exact keyed_put keyed (key_of_lookup found)
      ((keyed_table_iff .header e).2 ((keyed_table_iff .implied e).1 old))
  · cases changed

theorem keeps_append_table (path : List String) (key : String) :
    Keeps (appendTable path key) := by
  have fresh := (keyed_table_iff .header []).2 keyed_nil
  refine keeps_along (fun origin entries made left changed keyed => ?_) false path
  split at changed
  · rename_i missing
    cases changed
    refine keyed_snoc keyed missing (.tables _ fun item inside => ?_)
    rw [List.mem_singleton.1 inside]
    exact fresh
  · rename_i items found
    cases changed
    have each := distinct_of_tables (keyed.values _ (mem_of_lookup found))
    refine keyed_put keyed (key_of_lookup found) (.tables _ fun item inside => ?_)
    rcases List.mem_append.1 inside with earlier | new
    · exact each item earlier
    · rw [List.mem_singleton.1 new]
      exact fresh
  · cases changed

end

section

variable {s : List Char} {v : Value}

theorem scalar_whole_number (n : Int) : (wholeNumber n).isScalar = true := by
  unfold wholeNumber
  split <;> rfl

theorem scalar_radix_number {radix : Nat} {isDigit : Char → Bool}
    (read : radixNumber? radix isDigit s = some v) : v.isScalar = true := by
  unfold radixNumber? at read
  split at read
  · cases read
    split
    · rfl
    · exact scalar_whole_number _
  · cases read

theorem scalar_decimal_number {negative : Bool} (read : decimalNumber? negative s = some v) :
    v.isScalar = true := by
  unfold decimalNumber? at read
  dsimp only at read
  split at read
  · cases read
  · split at read
    · cases read
      rfl
    · cases read
      exact scalar_whole_number _

theorem scalar_float_number (read : floatNumber? s = some v) : v.isScalar = true := by
  unfold floatNumber? at read
  split at read
  · obtain ⟨⟨digits, power⟩, _, rfl⟩ := Option.map_eq_some_iff.1 read
    dsimp only
    split <;> rfl
  · cases read

theorem scalar_decimal_word {negative : Bool} (read : decimalWord? negative s = some v) :
    v.isScalar = true := by
  unfold decimalWord? at read
  dsimp only at read
  split at read
  · exact scalar_decimal_number read
  · split at read
    · exact scalar_float_number read
    · split at read
      · exact scalar_decimal_number read
      · cases read

theorem scalar_number_word {negative signed : Bool}
    (read : numberWord? negative signed s = some v) : v.isScalar = true := by
  have radix {radix : Nat} {isDigit : Char → Bool} {digits : List Char}
      (read : (if signed then none else radixNumber? radix isDigit digits) = some v) :
      v.isScalar = true := by
    split at read
    · cases read
    · exact scalar_radix_number read
  unfold numberWord? at read
  split at read
  · exact radix read
  · exact radix read
  · exact radix read
  · split at read
    · cases read
      rfl
    · split at read
      · exact scalar_decimal_word read
      · cases read

theorem scalar_word (read : word? s = some v) : v.isScalar = true := by
  unfold word? at read
  split at read
  · cases read
    rfl
  · split at read
    · cases read
      rfl
    · split at read
      · split at read
        · cases read
          rfl
        · cases read
      · split at read
        · split at read
          · cases read
          · exact scalar_number_word read
        · split at read
          · cases read
          · exact scalar_number_word read
        · exact scalar_number_word read

theorem distinct_scalar_value {rest : List Char} (read : scalarValue? s = some (v, rest)) :
    Distinct v := by
  have string {content : Option (List Char × List Char)}
      {said : List Char × List Char → Value × List Char}
      (simple : ∀ r, (said r).1.isScalar = true) (read : content.map said = some (v, rest)) :
      Distinct v := by
    obtain ⟨r, _, same⟩ := Option.map_eq_some_iff.1 read
    have simple := simple r
    rw [same] at simple
    exact .scalar v simple
  unfold scalarValue? at read
  dsimp only at read
  split at read
  · exact string (fun _ => rfl) read
  · exact string (fun _ => rfl) read
  · exact string (fun _ => rfl) read
  · exact string (fun _ => rfl) read
  · obtain ⟨_, word, same⟩ := Option.map_eq_some_iff.1 read
    cases same
    exact .scalar _ (scalar_word word)

end

structure ReadsDistinct (fuel : Nat) : Prop where
  value : ∀ depth s v rest, value? fuel depth s = some (v, rest) → Distinct v
  items : ∀ depth s items rest, items? fuel depth s = some (items, rest) →
    ∀ item ∈ items, Distinct item
  entries : ∀ depth before s after rest, entries? fuel depth before s = some (after, rest) →
    Keyed before → Keyed after

section

variable {fuel depth : Nat} {s rest : List Char}

theorem distinct_value (ih : ReadsDistinct fuel) {v : Value}
    (read : value? (fuel + 1) depth s = some (v, rest)) : Distinct v := by
  rw [value?.eq_def] at read
  dsimp only at read
  split at read
  · split at read
    · cases read
    · obtain ⟨⟨items, after⟩, inner, same⟩ := Option.bind_eq_some_iff.1 read
      cases same
      exact .array items (ih.items _ _ _ _ inner)
  · split at read
    · cases read
    · obtain ⟨⟨entries, after⟩, inner, same⟩ := Option.bind_eq_some_iff.1 read
      cases same
      exact (keyed_table_iff .inline entries).2 (ih.entries _ _ _ _ _ inner keyed_nil)
  · exact distinct_scalar_value read

theorem distinct_items (ih : ReadsDistinct fuel) {items : List Value}
    (read : items? (fuel + 1) depth s = some (items, rest)) :
    ∀ item ∈ items, Distinct item := by
  rw [items?.eq_def] at read
  dsimp only at read
  obtain ⟨first, _, read⟩ := Option.bind_eq_some_iff.1 read
  split at read
  · cases read
    exact fun item inside => absurd inside List.not_mem_nil
  · obtain ⟨⟨item, after⟩, one, read⟩ := Option.bind_eq_some_iff.1 read
    obtain ⟨next, _, read⟩ := Option.bind_eq_some_iff.1 read
    have distinct := ih.value _ _ _ _ one
    split at read
    · obtain ⟨⟨others, after⟩, more, same⟩ := Option.bind_eq_some_iff.1 read
      cases same
      exact List.forall_mem_cons.2 ⟨distinct, ih.items _ _ _ _ more⟩
    · cases read
      exact List.forall_mem_singleton.2 distinct
    · cases read

theorem keyed_entries (ih : ReadsDistinct fuel) {before after : Entries}
    (read : entries? (fuel + 1) depth before s = some (after, rest)) (keyed : Keyed before) :
    Keyed after := by
  rw [entries?.eq_def] at read
  dsimp only at read
  obtain ⟨first, _, read⟩ := Option.bind_eq_some_iff.1 read
  split at read
  · cases read
    exact keyed
  · obtain ⟨⟨path, key, afterKey⟩, _, read⟩ := Option.bind_eq_some_iff.1 read
    obtain ⟨next, _, read⟩ := Option.bind_eq_some_iff.1 read
    split at read
    · obtain ⟨valued, _, read⟩ := Option.bind_eq_some_iff.1 read
      obtain ⟨⟨v, afterValue⟩, one, read⟩ := Option.bind_eq_some_iff.1 read
      obtain ⟨⟨origin, assigned⟩, changed, read⟩ := Option.bind_eq_some_iff.1 read
      obtain ⟨last, _, read⟩ := Option.bind_eq_some_iff.1 read
      have distinct := ih.value _ _ _ _ one
      have wider := keeps_assign path key v distinct _ _ _ _ changed keyed
      split at read
      · exact ih.entries _ _ _ _ _ read wider
      · cases read
        exact wider
      · cases read
    · cases read

end

theorem reads_distinct (fuel : Nat) : ReadsDistinct fuel := by
  induction fuel with
  | zero =>
      exact ⟨fun _ _ _ _ read => (by cases read), fun _ _ _ _ read => (by cases read),
        fun _ _ _ _ _ read => (by cases read)⟩
  | succ fuel ih =>
      exact ⟨fun _ _ _ _ => distinct_value ih, fun _ _ _ _ => distinct_items ih,
        fun _ _ _ _ _ => keyed_entries ih⟩

theorem keyed_make {document next : Document} {change : Change} {path : List String}
    (keeps : Keeps change) (made : document.make change path = some next)
    (keyed : Keyed document.entries) : Keyed next.entries := by
  obtain ⟨⟨origin, entries⟩, changed, same⟩ := Option.bind_eq_some_iff.1 made
  cases same
  exact keeps _ _ _ _ changed keyed

theorem keyed_line {document next : Document} {s rest : List Char}
    (read : document.line? s = some (next, rest)) (keyed : Keyed document.entries) :
    Keyed next.entries := by
  unfold Document.line? at read
  split at read
  · obtain ⟨⟨path, key, after⟩, _, read⟩ := Option.bind_eq_some_iff.1 read
    dsimp only at read
    split at read
    · obtain ⟨made, change, read⟩ := Option.bind_eq_some_iff.1 read
      obtain ⟨_, _, same⟩ := Option.bind_eq_some_iff.1 read
      cases same
      exact keyed_make (keeps_append_table path key) change keyed
    · cases read
  · obtain ⟨⟨path, key, after⟩, _, read⟩ := Option.bind_eq_some_iff.1 read
    dsimp only at read
    split at read
    · obtain ⟨made, change, read⟩ := Option.bind_eq_some_iff.1 read
      obtain ⟨_, _, same⟩ := Option.bind_eq_some_iff.1 read
      cases same
      exact keyed_make (keeps_open_table path key) change keyed
    · cases read
  · obtain ⟨⟨path, key, afterKey⟩, _, read⟩ := Option.bind_eq_some_iff.1 read
    dsimp only at read
    split at read
    · obtain ⟨⟨v, after⟩, value, read⟩ := Option.bind_eq_some_iff.1 read
      obtain ⟨made, change, read⟩ := Option.bind_eq_some_iff.1 read
      obtain ⟨_, _, same⟩ := Option.bind_eq_some_iff.1 read
      cases same
      have distinct := (reads_distinct _).value _ _ _ _ value
      exact keyed_make (keeps_along (keeps_assign path key v distinct) false document.path)
        change keyed
    · cases read

theorem keyed_lines {fuel : Nat} {document whole : Document} {s : List Char}
    (read : document.lines? fuel s = some whole) (keyed : Keyed document.entries) :
    Keyed whole.entries := by
  induction fuel generalizing document s with
  | zero => cases read
  | succ fuel ih =>
      rw [Document.lines?] at read
      obtain ⟨first, _, read⟩ := Option.bind_eq_some_iff.1 read
      split at read
      · cases read
        exact keyed
      · obtain ⟨⟨next, rest⟩, line, read⟩ := Option.bind_eq_some_iff.1 read
        exact ih read (keyed_line line keyed)

theorem parse_keyed (text : String) (v : Value) (read : parse? text = some v) :
    ∃ entries, v = .table .header entries ∧ Keyed entries := by
  obtain ⟨document, lines, same⟩ := Option.bind_eq_some_iff.1 read
  cases same
  exact ⟨document.entries, rfl, keyed_lines lines keyed_nil⟩

end ServiceDiscovery.Toml
