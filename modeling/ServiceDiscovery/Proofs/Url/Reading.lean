import Mathlib.Data.List.Basic
import Mathlib.Data.List.TakeWhile
import ServiceDiscovery.Proofs.Text.Separator
import ServiceDiscovery.Proofs.Url.Percent
import ServiceDiscovery.Target
import ServiceDiscovery.Url

namespace ServiceDiscovery.Url

open Text

def kept (s : List Char) : List Char := s.filter fun c => c ≠ '\t' ∧ c ≠ '\n' ∧ c ≠ '\r'

theorem drop_while_of_head {α : Type} (p : α → Bool) (s : List α)
    (stays : ∀ c ∈ s.head?, p c = false) : s.dropWhile p = s := by
  cases s with
  | nil => rfl
  | cons c rest => rw [List.dropWhile_cons_of_neg (by simp [stays c rfl])]

theorem cleaned_visible (s : List Char) (first : ∀ c ∈ s.head?, 0x20 < c.toNat)
    (last : ∀ c ∈ s.getLast?, 0x20 < c.toNat) : cleaned s = kept s := by
  have front := drop_while_of_head (fun c : Char => decide (c.toNat ≤ 0x20)) s
    fun c mem => by simpa using first c mem
  have back := drop_while_of_head (fun c : Char => decide (c.toNat ≤ 0x20)) s.reverse
    fun c mem => by simpa using last c (by rwa [List.head?_reverse] at mem)
  rw [cleaned, front, back, List.reverse_reverse, kept]

theorem parse_append_blank (s blanks : List Char) (blank : ∀ c ∈ blanks, c.toNat ≤ 0x20) :
    parse? (.ofList (s ++ blanks)) = parse? (.ofList s) := by
  have same : cleaned (s ++ blanks) = cleaned s := by
    have around := drop_around (p := fun c : Char => decide (c.toNat ≤ 0x20)) [] s blanks
      (List.forall_mem_nil _) fun c inside => decide_eq_true (blank c inside)
    rw [List.nil_append] at around
    rw [cleaned, cleaned, around]
  simp only [parse?, String.toList_ofList, same]

theorem differ_of_absent {separator : Char} {s : List Char} (absent : separator ∉ s) :
    ∀ c ∈ s, decide (c ≠ separator) = true :=
  fun _ mem => decide_eq_true fun same => absent (same ▸ mem)

section

variable (separator : Char) (s : List Char)

theorem fst_cut : (cut separator s).1 = s.takeWhile (· ≠ separator) := by
  unfold cut
  split
  · rename_i none_left
    exact (List.takeWhile_eq_self_iff.2 (List.dropWhile_eq_nil_iff.1 none_left)).symm
  · rfl

theorem snd_cut_eq_none : (cut separator s).2 = none ↔ separator ∉ s := by
  unfold cut
  split
  · rename_i none_left
    have absent := List.dropWhile_eq_nil_iff.1 none_left
    simp only [true_iff]
    intro mem
    simpa using absent separator mem
  · rename_i found
    simp only [reduceCtorEq, false_iff, not_not]
    by_contra absent
    rw [List.dropWhile_eq_nil_iff.2 (differ_of_absent absent)] at found
    cases found

end

theorem cut_append (separator : Char) (a b : List Char) (absent : separator ∉ a) :
    cut separator (a ++ b) = (a ++ (cut separator b).1, (cut separator b).2) := by
  have passed := differ_of_absent absent
  unfold cut
  rw [List.dropWhile_append_of_pos passed, List.takeWhile_append_of_pos passed]
  split <;> rfl

theorem split_user_absent (authority : List Char) (absent : '@' ∉ authority) :
    splitUser authority = ([], authority) := by
  have whole : authority.reverse.takeWhile (fun c => decide (c ≠ '@')) = authority.reverse :=
    List.takeWhile_eq_self_iff.2 (differ_of_absent fun mem => absent (List.mem_reverse.1 mem))
  simp only [splitUser, whole, List.reverse_reverse, Nat.sub_self, Nat.zero_sub, List.take_zero]

theorem split_port (host port : List Char)
    (plain : ∀ c ∈ host, c ≠ ':' ∧ c ≠ '[' ∧ c ≠ ']') :
    splitPort false (host ++ ':' :: port) = (host, some port) := by
  induction host with
  | nil => rfl
  | cons c host ih =>
      obtain ⟨colon, opened, closed⟩ := plain c List.mem_cons_self
      simp only [List.cons_append, splitPort, colon, opened, closed, false_and, if_false,
        ih fun c mem => plain c (List.mem_cons_of_mem _ mem)]

theorem after_scheme_http (rest : List Char) :
    afterScheme? ("http://".toList ++ rest) = some (false, rest.dropWhile isSlash) := by
  have scheme : cut ':' ("http://".toList ++ rest) = ("http".toList, some ('/' :: '/' :: rest)) :=
    rfl
  have name : lower (.ofList "http".toList) = "http" := by decide
  simp only [afterScheme?, scheme, name]
  rfl

theorem ascii_of_host_char (c : Char) (host : isHostChar c = true) : c.toNat < 128 := by
  simp only [isHostChar, Bool.or_eq_true, beq_iff_eq] at host
  rcases host with (((letter | digit) | rfl) | rfl) | rfl
  · exact ascii_of_letter letter
  · exact ascii_of_digit digit
  all_goals decide

def isAddressChar (c : Char) : Bool := isHostChar c || c == ':'

theorem ascii_of_address_char (c : Char) (address : isAddressChar c = true) : c.toNat < 128 := by
  rw [isAddressChar, Bool.or_eq_true, beq_iff_eq] at address
  rcases address with host | rfl
  · exact ascii_of_host_char c host
  · decide

theorem address_char_plain (c : Char) (address : isAddressChar c = true) :
    isSlash c = false ∧ 0x20 < c.toNat ∧ c ≠ '#' ∧ c ≠ '?' ∧ c ≠ '@' := by
  refine forall_ascii (p := fun c => isAddressChar c = true →
    isSlash c = false ∧ 0x20 < c.toNat ∧ c ≠ '#' ∧ c ≠ '?' ∧ c ≠ '@') ?_ c
    (ascii_of_address_char c address) address
  decide

theorem host_char_plain (c : Char) (host : isHostChar c = true) : c ≠ ':' ∧ c ≠ '[' ∧ c ≠ ']' := by
  refine ⟨?_, ?_, ?_⟩
  all_goals
    rintro rfl
    exact absurd host (by decide)

theorem host_char_of_service (c : Char) (service : isServiceChar c = true) :
    isHostChar c = true := by
  rw [isServiceChar, Bool.or_eq_true] at service
  rcases service with letter | low
  · rw [isHostChar, letter]
    rfl
  · rw [isHostChar, low, Bool.or_true]
    rfl

theorem host_char_digit (c : Char) (digit : c.isDigit = true) : isHostChar c = true := by
  have same : isAsciiDigit c = c.isDigit := rfl
  rw [isHostChar, same, digit, Bool.or_true]
  rfl

theorem host_char_decimal (n : Nat) : ∀ c ∈ (toString n).toList, isHostChar c = true := by
  intro c mem
  rw [Nat.toString_eq_ofList_toDigits, String.toList_ofList] at mem
  exact host_char_digit c (Nat.isDigit_of_mem_toDigits (by decide) (by decide) mem)

theorem address_chars (target : Target) :
    ∀ c ∈ target.registryAddress.toList, isAddressChar c = true := by
  intro c mem
  rw [Target.registryAddress, String.toList_append, String.toList_append, List.mem_append,
    List.mem_append] at mem
  rcases mem with (host | colon) | port
  · rw [isAddressChar, List.all_eq_true.1 target.host_run.2 c host, Bool.true_or]
  · rw [List.mem_singleton.1 colon]
    rfl
  · rw [isAddressChar, host_char_decimal _ c port, Bool.true_or]

theorem kept_append (a b : List Char) : kept (a ++ b) = kept a ++ kept b := List.filter_append a b

theorem kept_visible (s : List Char) (visible : ∀ c ∈ s, 0x20 < c.toNat) : kept s = s := by
  refine List.filter_eq_self.2 fun c mem => decide_eq_true ?_
  refine ⟨?_, ?_, ?_⟩
  all_goals
    rintro rfl
    exact absurd (visible _ mem) (by decide)

def beforeFragment (path : List Char) : List Char := (cut '#' (kept path)).1
def beforeQuery (path : List Char) : List Char := (cut '?' (beforeFragment path)).1

-- Characters that a URL keeps as they are and that end no part of it.
def IsPlain (c : Char) : Prop := 0x20 < c.toNat ∧ c ≠ '#' ∧ c ≠ '?'

section

variable {front : List Char} (plain : ∀ c ∈ front, IsPlain c) (path : List Char)

include plain

theorem before_fragment_append : beforeFragment (front ++ path) = front ++ beforeFragment path := by
  have absent : '#' ∉ front := fun mem => (plain _ mem).2.1 rfl
  rw [beforeFragment, kept_append, kept_visible front fun c mem => (plain c mem).1,
    cut_append _ _ _ absent]
  rfl

theorem query_append :
    cut '?' (beforeFragment (front ++ path)) =
      (front ++ beforeQuery path, (cut '?' (beforeFragment path)).2) := by
  have absent : '?' ∉ front := fun mem => (plain _ mem).2.2 rfl
  rw [before_fragment_append plain, cut_append _ _ _ absent]
  rfl

theorem before_query_append : beforeQuery (front ++ path) = front ++ beforeQuery path := by
  rw [beforeQuery, query_append plain]

end

theorem before_fragment_sublist (path : List Char) : (beforeFragment path).Sublist path := by
  rw [beforeFragment, fst_cut]
  exact (List.takeWhile_sublist _).trans List.filter_sublist

theorem before_query_sublist (path : List Char) : (beforeQuery path).Sublist path := by
  rw [beforeQuery, fst_cut]
  exact (List.takeWhile_sublist _).trans (before_fragment_sublist path)

-- A text is a path to its end if nothing in it is skipped and nothing ends the path.
theorem before_query_eq_iff (path : List Char) :
    beforeQuery path = path ↔
      ∀ c ∈ path, (c ≠ '\t' ∧ c ≠ '\n' ∧ c ≠ '\r') ∧ c ≠ '#' ∧ c ≠ '?' := by
  rw [beforeQuery, fst_cut, beforeFragment, fst_cut]
  constructor
  · intro whole
    have ended := (List.takeWhile_sublist (fun c => decide (c ≠ '?'))
      (l := (kept path).takeWhile (fun c => decide (c ≠ '#')))).length_le
    have shorter := (List.takeWhile_sublist (fun c => decide (c ≠ '#')) (l := kept path)).length_le
    rw [whole] at ended
    have all : kept path = path :=
      List.filter_sublist.eq_of_length_le (Nat.le_trans ended shorter)
    rw [all] at whole ended
    have unended : path.takeWhile (fun c => decide (c ≠ '#')) = path :=
      (List.takeWhile_sublist _).eq_of_length_le ended
    rw [unended] at whole
    intro c mem
    refine ⟨?_, ?_, ?_⟩
    · exact of_decide_eq_true (List.filter_eq_self.1 all c mem)
    · exact of_decide_eq_true (List.takeWhile_eq_self_iff.1 unended c mem)
    · exact of_decide_eq_true (List.takeWhile_eq_self_iff.1 whole c mem)
  · intro plain
    have all : kept path = path :=
      List.filter_eq_self.2 fun c mem => decide_eq_true (plain c mem).1
    rw [all, List.takeWhile_eq_self_iff.2 fun c mem => decide_eq_true (plain c mem).2.1]
    exact List.takeWhile_eq_self_iff.2 fun c mem => decide_eq_true (plain c mem).2.2

theorem foreign_to_address (target : Target) (c : Char) (foreign : isAddressChar c = false) :
    c ∉ target.registryAddress.toList := fun mem => by
  cases foreign.symm.trans (address_chars target c mem)

theorem to_list_address (target : Target) :
    target.registryAddress.toList =
      target.host.toList ++ ':' :: (toString target.port.toNat).toList := by
  rw [Target.registryAddress, String.toList_append, String.toList_append, List.append_assoc]
  rfl

theorem address_ne_empty (target : Target) : target.registryAddress ≠ "" := by
  intro empty
  have chars := to_list_address target
  rw [empty] at chars
  exact absurd chars.symm (List.append_ne_nil_of_right_ne_nil _ (List.cons_ne_nil _ _))

section

variable {target : Target} {text : String} {rest : List Char}

theorem after_scheme_below (below : text.toList =
      "http://".toList ++ (target.registryAddress.toList ++ '/' :: rest))
    (last : ∀ c ∈ ('/' :: rest).getLast?, 0x20 < c.toNat) :
    afterScheme? (cleaned text.toList) =
      some (false, target.registryAddress.toList ++ kept ('/' :: rest)) := by
  have visible : ∀ c ∈ target.registryAddress.toList, 0x20 < c.toNat := fun c mem =>
    (address_char_plain c (address_chars target c mem)).2.1
  have scheme : ∀ c ∈ "http://".toList, 0x20 < c.toNat := by simp
  have written : target.registryAddress.toList ≠ [] := by
    rw [to_list_address]
    exact List.append_ne_nil_of_right_ne_nil _ (List.cons_ne_nil _ _)
  rw [cleaned_visible, below, kept_append, kept_append, kept_visible _ scheme,
    kept_visible _ visible, after_scheme_http, drop_while_of_head]
  · intro c mem
    rw [List.head?_append_of_ne_nil _ written] at mem
    exact (address_char_plain c (address_chars target c (List.mem_of_mem_head? mem))).1
  · rw [below]
    exact fun c mem => scheme c (List.mem_of_mem_head? mem)
  · have shorter := List.getLast?_append_cons ("http://".toList ++ target.registryAddress.toList)
      '/' rest
    rw [below, ← List.append_assoc, shorter]
    exact last

theorem take_while_address (target : Target) (rest : List Char) :
    (target.registryAddress.toList ++ '/' :: rest).takeWhile (!isSlash ·) =
      target.registryAddress.toList := by
  rw [List.takeWhile_append_of_pos, List.takeWhile_cons_of_neg (by decide), List.append_nil]
  intro c mem
  rw [(address_char_plain c (address_chars target c mem)).1]
  rfl

/-- What a text says below a registry's address is its path and its query: the host and the port
are those of the address, and no user is named. -/
theorem parse_registry_url (below : text.toList =
      "http://".toList ++ (target.registryAddress.toList ++ '/' :: rest))
    (last : ∀ c ∈ ('/' :: rest).getLast?, 0x20 < c.toNat) :
    parse? text =
      (host? target.host.toList).bind fun host =>
        (port? 80 (toString target.port.toNat).toList).bind fun port =>
          some {
            secure := false, credentials := none, host, port
            path := pathSegments (beforeQuery ('/' :: rest))
            query := (cut '?' (beforeFragment ('/' :: rest))).2.map fun q =>
              .ofList (encodeChars escapesQuery q)
            fragment := (cut '#' (kept ('/' :: rest))).2.map fun f =>
              .ofList (encodeChars escapesFragment f) } := by
  have slash : ∀ c ∈ ['/'], IsPlain c := by
    intro c mem
    rw [List.mem_singleton.1 mem]
    exact ⟨by decide, by decide, by decide⟩
  have fragment := cut_append '#' target.registryAddress.toList (kept ('/' :: rest))
    (foreign_to_address target '#' (by decide))
  have query := cut_append '?' target.registryAddress.toList (beforeFragment ('/' :: rest))
    (foreign_to_address target '?' (by decide))
  have root : beforeQuery ('/' :: rest) = '/' :: beforeQuery rest := before_query_append slash rest
  have authority := take_while_address target (beforeQuery rest)
  rw [← root] at authority
  have user := split_user_absent _ (foreign_to_address target '@' (by decide))
  have port := split_port target.host.toList (toString target.port.toNat).toList fun c mem =>
    host_char_plain c (List.all_eq_true.1 target.host_run.2 c mem)
  rw [← to_list_address] at port
  rw [← beforeFragment] at fragment
  rw [← beforeQuery] at query
  simp only [parse?, after_scheme_below below last, Option.bind_eq_bind, Option.bind_some, fragment,
    query, authority, user, port, if_neg target.host_run.1, List.drop_left, Option.getD_some]
  rfl

end

end ServiceDiscovery.Url
