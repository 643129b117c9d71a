import ServiceDiscovery.Proofs.Url.Reading

namespace ServiceDiscovery.Url

open Text

-- Backslashes count as slashes.
def flat (s : List Char) : List Char := s.map fun c => if c = '\\' then '/' else c

def isName (name : String) : Bool :=
  name.toList.all (fun c => !isSlash c && !escapesPath c) && !isDot name.toList &&
    !isDoubleDot name.toList

-- The last segment of a path, where a dot or two stand for an empty one.
def finalSegment (segment : List Char) : List Char :=
  if isDoubleDot segment || isDot segment then [] else encodeChars escapesPath segment

def rooted (names : List String) : List Char := names.flatMap fun name => '/' :: name.toList

theorem rooted_cons (name : String) (names : List String) :
    rooted (name :: names) = '/' :: (name.toList ++ rooted names) := List.flatMap_cons

theorem flat_slash (c : Char) (s : List Char) (slash : isSlash c = true) :
    flat (c :: s) = '/' :: flat s := by
  rw [isSlash, Bool.or_eq_true, beq_iff_eq, beq_iff_eq] at slash
  rcases slash with rfl | rfl <;> rfl

theorem flat_other (c : Char) (s : List Char) (other : isSlash c = false) :
    flat (c :: s) = c :: flat s := by
  have backslash : c ≠ '\\' := by
    rintro rfl
    exact absurd other (by decide)
  rw [flat, List.map_cons, if_neg backslash]
  rfl

theorem flat_append (a b : List Char) : flat (a ++ b) = flat a ++ flat b := List.map_append

theorem flat_plain (s : List Char) (plain : ∀ c ∈ s, isSlash c = false) : flat s = s := by
  induction s with
  | nil => rfl
  | cons c s ih =>
      rw [flat_other c s (plain c List.mem_cons_self),
        ih fun x mem => plain x (List.mem_cons_of_mem c mem)]

theorem path_segments_root (s : List Char) :
    pathSegments ('/' :: s) = segments [] (splitOnChar '/' (flat s)) := rfl

theorem split_on_char_append (separator : Char) (a b : List Char) (absent : separator ∉ a) :
    splitOnChar separator (a ++ separator :: b) = a :: splitOnChar separator b := by
  induction a with
  | nil => rw [List.nil_append, splitOnChar, if_pos rfl]
  | cons c a ih =>
      rw [List.mem_cons, not_or] at absent
      rw [List.cons_append, splitOnChar, if_neg fun same => absent.1 same.symm, ih absent.2]

theorem split_flat_last (s : List Char) :
    ∃ front last, splitOnChar '/' (flat s) = front ++ [last] ∧ last.Sublist s ∧
      (∀ c ∈ last, isSlash c = false) ∧
      ((∀ c ∈ s, isSlash c = false) → front = [] ∧ last = s) := by
  induction s with
  | nil =>
      exact ⟨[], [], rfl, .slnil, fun _ mem => absurd mem List.not_mem_nil, fun _ => ⟨rfl, rfl⟩⟩
  | cons c s ih =>
      obtain ⟨front, last, split, within, plain, whole⟩ := ih
      cases slash : isSlash c with
      | true =>
          refine ⟨[] :: front, last, ?_, within.cons c, plain, fun none => ?_⟩
          · rw [flat_slash c s slash, splitOnChar, if_pos rfl, split, List.cons_append]
          · cases slash.symm.trans (none c List.mem_cons_self)
      | false =>
          have other : c ≠ '/' := by
            rintro rfl
            exact absurd slash (by decide)
          rw [flat_other c s slash, splitOnChar, if_neg other, split]
          cases front with
          | nil =>
              refine ⟨[], c :: last, rfl, within.cons_cons c, ?_, fun none => ⟨rfl, ?_⟩⟩
              · intro x mem
                rcases List.mem_cons.1 mem with rfl | mem
                · exact slash
                · exact plain x mem
              · rw [(whole fun x mem => none x (List.mem_cons_of_mem c mem)).2]
          | cons part front =>
              refine ⟨(c :: part) :: front, last, rfl, within.cons c, plain, fun none => ?_⟩
              exact absurd (whole fun x mem => none x (List.mem_cons_of_mem c mem)).1
                (List.cons_ne_nil _ _)

theorem encode_chars_kept (escapes : Char → Bool) (s : List Char)
    (kept : ∀ c ∈ s, escapes c = false) : encodeChars escapes s = s := by
  induction s with
  | nil => rfl
  | cons c s ih =>
      rw [encode_chars_cons_kept c s (kept c List.mem_cons_self),
        ih fun x mem => kept x (List.mem_cons_of_mem c mem)]

theorem segments_name (before : List String) (name : String) (rest : List (List Char))
    (named : isName name = true) :
    segments before (name.toList :: rest) = segments (before ++ [name]) rest := by
  simp only [isName, Bool.and_eq_true, Bool.not_eq_true', List.all_eq_true] at named
  obtain ⟨⟨plain, single⟩, double⟩ := named
  rw [segments, double, single, encode_chars_kept escapesPath _ fun c mem => (plain c mem).2,
    String.ofList_toList]
  rfl

theorem plain_of_name (name : String) (named : isName name = true) :
    ∀ c ∈ name.toList, isSlash c = false := by
  simp only [isName, Bool.and_eq_true, Bool.not_eq_true', List.all_eq_true] at named
  exact fun c mem => (named.1.1 c mem).1

theorem root_of_names (names : List String) (s : List Char) :
    ∃ after, rooted names ++ '/' :: s = '/' :: after := by
  cases names with
  | nil => exact ⟨s, rfl⟩
  | cons name names => exact ⟨name.toList ++ rooted names ++ '/' :: s, by rw [rooted_cons]; rfl⟩

theorem segments_names (names : List String) (named : ∀ name ∈ names, isName name = true)
    (before : List String) (s t : List Char) (below : '/' :: t = rooted names ++ '/' :: s) :
    segments before (splitOnChar '/' (flat t)) =
      segments (before ++ names) (splitOnChar '/' (flat s)) := by
  induction names generalizing before t with
  | nil =>
      cases below
      rw [List.append_nil]
  | cons name names ih =>
      obtain ⟨after, same⟩ := root_of_names names s
      rw [rooted_cons, List.cons_append, List.append_assoc, same, List.cons.injEq] at below
      have first := named name List.mem_cons_self
      have plain := plain_of_name name first
      have absent : '/' ∉ name.toList := fun mem => absurd (plain _ mem) (by decide)
      rw [below.2, flat_append, flat_plain name.toList plain, flat_slash '/' after rfl,
        split_on_char_append '/' _ _ absent, segments_name before name _ first,
        ih (fun other mem => named other (List.mem_cons_of_mem name mem)) _ after same.symm,
        List.append_assoc, List.singleton_append]

def dotSpellings : List String := [".", "%2e", "..", ".%2e", "%2e.", "%2e%2e"]

theorem not_dots_of_other (s : List Char) (other : lower (.ofList s) ∉ dotSpellings) :
    isDot s = false ∧ isDoubleDot s = false := by
  refine ⟨?_, ?_⟩
  · refine Bool.eq_false_iff.2 fun spelled => other ?_
    exact List.mem_append_left ["..", ".%2e", "%2e.", "%2e%2e"] (List.contains_iff_mem.1 spelled)
  · refine Bool.eq_false_iff.2 fun spelled => other ?_
    exact List.mem_append_right [".", "%2e"] (List.contains_iff_mem.1 spelled)

theorem not_dots_of_dash (s : List Char) (dash : '-' ∈ s) :
    isDot s = false ∧ isDoubleDot s = false := by
  have lowered : '-' ∈ (lower (.ofList s)).toList := by
    rw [lower, String.toList_ofList, String.toList_ofList]
    exact List.mem_map_of_mem (f := lowerChar) dash
  have absent : ∀ text ∈ dotSpellings, '-' ∉ text.toList := by decide
  exact not_dots_of_other s fun spelled => absent _ spelled lowered

theorem not_dots_of_head (c : Char) (s : List Char) (dot : lowerChar c ≠ '.')
    (mark : lowerChar c ≠ '%') : isDot (c :: s) = false ∧ isDoubleDot (c :: s) = false := by
  have starts : ∀ text ∈ dotSpellings,
      text.toList.head? = some '.' ∨ text.toList.head? = some '%' := by decide
  refine not_dots_of_other _ fun spelled => ?_
  have first : (lower (.ofList (c :: s))).toList.head? = some (lowerChar c) := by
    rw [lower, String.toList_ofList, String.toList_ofList]
    rfl
  rcases starts _ spelled with start | start
  · exact dot (Option.some.inj (first.symm.trans start))
  · exact mark (Option.some.inj (first.symm.trans start))

theorem segments_single (before : List String) (segment : List Char)
    (single : isDot segment = false) (double : isDoubleDot segment = false) :
    segments before [segment] = before ++ [.ofList (encodeChars escapesPath segment)] := by
  rw [segments, double, single]
  rfl

theorem segments_last (before : List String) (parts : List (List Char)) (last : List Char) :
    ∃ front, segments before (parts ++ [last]) = front ++ [.ofList (finalSegment last)] := by
  induction parts generalizing before with
  | nil =>
      rw [List.nil_append, segments, finalSegment]
      cases isDoubleDot last with
      | true => exact ⟨leadBack before, rfl⟩
      | false =>
          cases isDot last with
          | true => exact ⟨before, rfl⟩
          | false => exact ⟨before, rfl⟩
  | cons part parts ih =>
      rw [List.cons_append, segments]
      cases isDoubleDot part with
      | true => exact ih _
      | false =>
          cases isDot part with
          | true => exact ih _
          | false => exact ih _

theorem not_slash_in_encoded (s : List Char) (plain : ∀ c ∈ s, isSlash c = false) :
    '/' ∉ encodeChars escapesPath s := by
  intro mem
  rcases mem_encode_chars mem with mark | digit | inside
  · exact absurd mark (by decide)
  · exact absurd digit (by decide)
  · exact absurd (plain '/' inside.1) (by decide)

theorem not_slash_in_final (last : List Char) (plain : ∀ c ∈ last, isSlash c = false) :
    '/' ∉ finalSegment last := by
  unfold finalSegment
  split
  · exact List.not_mem_nil
  · exact not_slash_in_encoded last plain

theorem rooted_append (front back : List String) :
    rooted (front ++ back) = rooted front ++ rooted back := List.flatMap_append

theorem rooted_join (name : String) (names : List String) :
    '/' :: ['/'].intercalate ((name :: names).map String.toList) = rooted (name :: names) := by
  induction names generalizing name with
  | nil => simp [rooted]
  | cons next names ih =>
      rw [rooted_cons, ← ih next, List.map_cons, List.map_cons, List.intercalate_cons_cons]
      simp

theorem path_text_last (url : Url) (front : List String) (last : List Char)
    (ends : url.path = front ++ [.ofList last]) :
    url.pathText.toList = rooted front ++ '/' :: last := by
  have written : url.pathText.toList = rooted url.path := by
    cases names : url.path with
    | nil =>
        rw [ends] at names
        exact absurd names (List.append_ne_nil_of_right_ne_nil _ (List.cons_ne_nil _ _))
    | cons name rest =>
        rw [← rooted_join, pathText, names, joinWith, String.toList_append,
          String.toList_intercalate]
        rfl
  rw [written, ends, rooted_append, rooted_cons, String.toList_ofList]
  simp [rooted]

theorem plain_of_unescaped (c : Char) (kept : escapesPath c = false) : IsPlain c := by
  simp only [escapesPath, escapesFragment, escapesControl, Bool.or_eq_false_iff,
    decide_eq_false_iff_not, beq_eq_false_iff_ne] at kept
  obtain ⟨⟨⟨⟨fragment, hash⟩, query⟩, _⟩, _⟩ := kept
  obtain ⟨⟨⟨⟨⟨⟨control, _⟩, blank⟩, _⟩, _⟩, _⟩, _⟩ := fragment
  have other : c.toNat ≠ ' '.toNat := fun same => blank (Char.toNat_inj.1 same)
  have value : ' '.toNat = 0x20 := rfl
  exact ⟨by omega, hash, query⟩

theorem plain_of_rooted (names : List String) (named : ∀ name ∈ names, isName name = true) :
    ∀ c ∈ rooted names ++ ['/'], IsPlain c := by
  have slash : IsPlain '/' := ⟨by decide, by decide, by decide⟩
  intro c mem
  simp only [rooted, List.mem_append, List.mem_flatMap, List.mem_cons, List.not_mem_nil,
    or_false] at mem
  rcases mem with ⟨name, inside, rfl | mem⟩ | rfl
  · exact slash
  · have spelled := named name inside
    simp only [isName, Bool.and_eq_true, Bool.not_eq_true', List.all_eq_true] at spelled
    exact plain_of_unescaped c (spelled.1.1 c mem).2
  · exact slash

end ServiceDiscovery.Url
