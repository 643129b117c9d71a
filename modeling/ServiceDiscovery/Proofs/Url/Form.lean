import ServiceDiscovery.Proofs.Url.Address

namespace ServiceDiscovery.Url

open Text

def formText? (s : List Char) : Option String := String.fromUTF8? ⟨(formDecodeBytes s).toArray⟩

-- A name and a value are apart at the first `=`; without one the value is empty.
def formPair? (part : List Char) : Option (String × String) :=
  (formText? (cut '=' part).1).bind fun name =>
    (formText? ((cut '=' part).2.getD [])).map fun value => (name, value)

-- The pairs of a form, apart at every `&`; nothing between two of these is no pair.
def formRead? (query : List Char) : Option (List (String × String)) :=
  ((splitOnChar '&' query).filter (· ≠ [])).mapM formPair?

theorem form_encode_absent (x : Char) (foreign : isFormChar x = false ∧ isHexDigit x = false)
    (other : x ≠ '+' ∧ x ≠ '%') (s : List Char) : x ∉ formEncode s := by
  intro mem
  rcases mem_form_encode mem with plus | form | mark | digit
  · exact other.1 plus
  · cases foreign.1.symm.trans form
  · exact other.2 mark
  · cases foreign.2.symm.trans digit

theorem form_char_kept (c : Char) (form : isFormChar c = true) : c ≠ '+' ∧ c ≠ '%' := by
  refine ⟨?_, ?_⟩
  all_goals
    rintro rfl
    exact absurd form (by decide)

theorem encode_char_plusless (c : Char) : ∀ x ∈ encodeChar c, x ≠ '+' := by
  rintro x mem rfl
  rcases mem_encode_char mem with mark | digit
  · exact absurd mark (by decide)
  · exact absurd digit (by decide)

theorem form_decode_bytes_char (c : Char) (rest : List Char) :
    formDecodeBytes
        ((if c = ' ' then ['+'] else if isFormChar c then [c] else encodeChar c) ++ rest) =
      String.utf8EncodeChar c ++ formDecodeBytes rest := by
  rw [formDecodeBytes, List.map_append]
  split
  · rename_i blank
    subst blank
    exact decode_bytes_cons ' ' _ fun mark => absurd mark (by decide)
  · split
    · rename_i form
      obtain ⟨plus, mark⟩ := form_char_kept c form
      rw [List.map_singleton, if_neg plus]
      exact decode_bytes_cons c _ fun same => absurd same mark
    · have kept : (encodeChar c).map (fun x => if x = '+' then ' ' else x) = encodeChar c :=
        (List.map_congr_left fun x mem => if_neg (encode_char_plusless c x mem)).trans
          (List.map_id _)
      rw [kept]
      exact decode_bytes_encode_char c _

theorem form_decode_bytes_encode (s : List Char) : formDecodeBytes (formEncode s) = utf8 s := by
  induction s with
  | nil =>
      rw [formEncode, List.flatMap_nil, formDecodeBytes, List.map_nil, decodeBytes]
      rfl
  | cons c s ih =>
      rw [formEncode, List.flatMap_cons, form_decode_bytes_char, utf8_cons, ← ih]
      rfl

theorem form_text_encode (text : String) : formText? (formEncode text.toList) = some text :=
  (decoded_iff _ text).2 (form_decode_bytes_encode text.toList)

theorem form_pair_written (pair : String × String) : formPair? (formPair pair) = some pair := by
  have absent := form_encode_absent '=' (by decide) (by decide) pair.1.toList
  have apart : cut '=' (formPair pair) =
      (formEncode pair.1.toList, some (formEncode pair.2.toList)) := by
    rw [formPair, cut_append '=' _ _ absent]
    simp [cut]
  rw [formPair?, apart, form_text_encode, Option.bind_some, Option.getD_some, form_text_encode]
  rfl

theorem form_pairs_written (pairs : List (String × String)) :
    (pairs.map formPair).mapM formPair? = some pairs := by
  induction pairs with
  | nil => rfl
  | cons pair pairs ih =>
      rw [List.map_cons, List.mapM_cons, form_pair_written, ih]
      rfl

theorem form_pair_whole (pair : String × String) : '&' ∉ formPair pair ∧ formPair pair ≠ [] := by
  have absent := form_encode_absent '&' (by decide) (by decide)
  refine ⟨fun mem => ?_, List.append_ne_nil_of_right_ne_nil _ (List.cons_ne_nil _ _)⟩
  rcases List.mem_append.1 mem with mem | mem
  · exact absent _ mem
  · rcases List.mem_cons.1 mem with other | mem
    · exact absurd other (by decide)
    · exact absent _ mem

theorem form_pairs_split (pair : String × String) (pairs : List (String × String)) :
    splitOnChar '&' (formPairs (pair :: pairs)) = (pair :: pairs).map formPair := by
  rw [formPairs, List.map_cons, split_on_char_intercalate]
  intro part there
  obtain ⟨written, _, rfl⟩ := List.mem_map.1 (List.map_cons ▸ there)
  exact (form_pair_whole written).1

/-- The pairs of a form are read as they were written. -/
theorem form_read_pairs (pairs : List (String × String)) :
    formRead? (formPairs pairs) = some pairs := by
  have parts : (splitOnChar '&' (formPairs pairs)).filter (· ≠ []) = pairs.map formPair := by
    cases pairs with
    | nil => rfl
    | cons pair pairs =>
        rw [form_pairs_split]
        refine List.filter_eq_self.2 fun part there => decide_eq_true ?_
        obtain ⟨written, _, rfl⟩ := List.mem_map.1 there
        exact (form_pair_whole written).2
  rw [formRead?, parts]
  exact form_pairs_written pairs

-- The value of the last pair of a name; what is no pair of texts does not count.
def lastValue? (name : String) (query : List Char) : Option String :=
  ((splitOnChar '&' query).reverse.filterMap formPair?).lookup name

theorem split_on_char_join (separator : Char) (a b : List Char) :
    splitOnChar separator (a ++ separator :: b) =
      splitOnChar separator a ++ splitOnChar separator b := by
  induction a with
  | nil => simp [splitOnChar]
  | cons c a ih =>
      rw [List.cons_append, splitOnChar, splitOnChar, ih]
      by_cases mark : c = separator
      · rw [if_pos mark, if_pos mark, List.cons_append]
      · rw [if_neg mark, if_neg mark]
        cases parts : splitOnChar separator a with
        | nil => exact absurd parts (split_on_char_ne_nil separator a)
        | cons part parts => rfl

theorem last_value_written (name : String) (pair : String × String)
    (pairs : List (String × String)) :
    lastValue? name (formPairs (pair :: pairs)) = (pair :: pairs).reverse.lookup name := by
  have read : formPair? ∘ formPair = some := funext form_pair_written
  rw [lastValue?, form_pairs_split, ← List.map_reverse, List.filterMap_map, read,
    List.filterMap_some]

theorem last_value_join (name : String) (a b : List Char) :
    lastValue? name (a ++ '&' :: b) = (lastValue? name b).or (lastValue? name a) := by
  rw [lastValue?, split_on_char_join, List.reverse_append, List.filterMap_append,
    List.lookup_append]
  rfl

theorem last_value_with_pairs (url : Url) (pair : String × String) (pairs : List (String × String))
    (name value : String) (there : (pair :: pairs).reverse.lookup name = some value) :
    ((url.withPairs (pair :: pairs)).query.bind fun query => lastValue? name query.toList) =
      some value := by
  have own : lastValue? name (formPairs (pair :: pairs)) = some value :=
    (last_value_written name pair pairs).trans there
  have alone : lastValue? name (String.ofList (formPairs (pair :: pairs))).toList = some value := by
    rw [String.toList_ofList]
    exact own
  unfold withPairs
  dsimp only
  split
  · exact alone
  · exact alone
  · rename_i query _ _
    have joined : (query ++ "&" ++ String.ofList (formPairs (pair :: pairs))).toList =
        query.toList ++ '&' :: formPairs (pair :: pairs) := by
      rw [String.toList_append, String.toList_append, List.append_assoc,
        String.toList_ofList (l := formPairs (pair :: pairs))]
      rfl
    rw [Option.bind_some, joined, last_value_join, own]
    rfl

end ServiceDiscovery.Url
