import ServiceDiscovery.Resolver.Builder

namespace ServiceDiscovery

structure SchemeSplit (uri scheme rest : String) : Prop where
  joined : uri = scheme ++ "://" ++ rest
  first : ∀ front back, uri = front ++ "://" ++ back → scheme.length ≤ front.length

def Unmarked (text : String) : Prop := ∀ front back, text ≠ front ++ "://" ++ back

theorem split_scheme_mark (rest : List Char) :
    splitScheme? (':' :: '/' :: '/' :: rest) = some ([], rest) := by
  rw [splitScheme?]

theorem split_scheme_joined (uri scheme rest : List Char)
    (split : splitScheme? uri = some (scheme, rest)) : uri = scheme ++ "://".toList ++ rest := by
  induction uri using splitScheme?.induct generalizing scheme with
  | case1 =>
      rw [splitScheme?] at split
      cases split
  | case2 after =>
      rw [split_scheme_mark] at split
      cases split
      rfl
  | case3 c after other ih =>
      rw [splitScheme?, Option.map_eq_some_iff] at split
      · obtain ⟨⟨before, left⟩, found, same⟩ := split
        cases same
        rw [ih before found]
        rfl
      · exact other

theorem split_scheme_first (uri front back : List Char)
    (marked : uri = front ++ "://".toList ++ back) :
    ∃ scheme rest, splitScheme? uri = some (scheme, rest) ∧ scheme.length ≤ front.length := by
  induction uri using splitScheme?.induct generalizing front with
  | case1 => simp at marked
  | case2 after => exact ⟨[], after, split_scheme_mark after, Nat.zero_le _⟩
  | case3 c after other ih =>
      cases front with
      | nil =>
          obtain ⟨rfl, same⟩ := List.cons.inj marked
          exact absurd same (other back rfl)
      | cons d front =>
          obtain ⟨scheme, rest, found, early⟩ := ih front (List.cons.inj marked).2
          refine ⟨c :: scheme, rest, ?_, Nat.succ_le_succ early⟩
          rw [splitScheme?, found]
          · rfl
          · exact other

theorem joined_iff (uri : String) (scheme rest : List Char) :
    uri = .ofList scheme ++ "://" ++ .ofList rest ↔
      uri.toList = scheme ++ "://".toList ++ rest := by
  rw [← String.toList_inj, String.toList_append, String.toList_append,
    String.toList_ofList (l := scheme), String.toList_ofList (l := rest)]

theorem split_scheme_iff (uri : String) (scheme rest : List Char) :
    splitScheme? uri.toList = some (scheme, rest) ↔
      SchemeSplit uri (.ofList scheme) (.ofList rest) := by
  constructor
  · intro split
    refine ⟨(joined_iff _ _ _).2 (split_scheme_joined _ _ _ split), fun front back marked => ?_⟩
    rw [← String.ofList_toList (s := front), ← String.ofList_toList (s := back), joined_iff]
      at marked
    obtain ⟨before, after, found, early⟩ := split_scheme_first _ _ _ marked
    rw [split] at found
    cases found
    rwa [String.length_ofList]
  · rintro ⟨joined, first⟩
    have marked := (joined_iff _ _ _).1 joined
    obtain ⟨before, after, found, early⟩ := split_scheme_first _ _ _ marked
    have other := split_scheme_joined _ _ _ found
    have late := first (.ofList before) (.ofList after) ((joined_iff _ _ _).2 other)
    rw [String.length_ofList, String.length_ofList] at late
    rw [marked, List.append_assoc, List.append_assoc] at other
    obtain ⟨same, after_same⟩ := List.append_inj other (Nat.le_antisymm late early)
    rw [found, same, List.append_cancel_left after_same]

theorem split_scheme_of_split {uri scheme rest : String} (split : SchemeSplit uri scheme rest) :
    splitScheme? uri.toList = some (scheme.toList, rest.toList) := by
  rw [split_scheme_iff, String.ofList_toList, String.ofList_toList]
  exact split

theorem split_scheme_none_iff (uri : String) :
    splitScheme? uri.toList = none ↔ ∀ front back, uri ≠ front ++ "://" ++ back := by
  constructor
  · intro unsplit front back marked
    rw [← String.ofList_toList (s := front), ← String.ofList_toList (s := back), joined_iff]
      at marked
    obtain ⟨scheme, rest, found, _⟩ := split_scheme_first _ _ _ marked
    rw [unsplit] at found
    cases found
  · intro unmarked
    cases split : splitScheme? uri.toList with
    | none => rfl
    | some parts =>
        exact absurd ((joined_iff _ _ _).2 (split_scheme_joined _ _ _ split)) (unmarked _ _)

instance (text : String) : Decidable (Unmarked text) :=
  decidable_of_iff _ (split_scheme_none_iff text)

-- A scheme may end like a mark begins, but no mark starts in a scheme and ends behind it.
theorem no_earlier_mark (scheme rest front back : List Char)
    (unmarked : ∀ before after, scheme ≠ before ++ "://".toList ++ after)
    (same : scheme ++ "://".toList ++ rest = front ++ "://".toList ++ back) :
    scheme.length ≤ front.length := by
  refine Nat.le_of_not_lt fun shorter => ?_
  rw [List.append_assoc, List.append_assoc] at same
  obtain ⟨part, rfl⟩ := List.prefix_of_prefix_length_le ⟨_, same.symm⟩
    (List.prefix_append scheme _) (Nat.le_of_lt shorter)
  rw [List.append_assoc] at same
  have starts := List.append_cancel_left same
  rcases part with _ | ⟨a, _ | ⟨b, _ | ⟨c, tail⟩⟩⟩
  · rw [List.append_nil] at shorter
    exact absurd shorter (Nat.lt_irrefl _)
  · simp at starts
  · simp at starts
  · simp only [List.cons_append, String.reduceToList, List.cons.injEq] at starts
    obtain ⟨rfl, rfl, rfl, _⟩ := starts
    exact unmarked front tail (by simp)

theorem scheme_split_of_unmarked (scheme rest : String) (unmarked : Unmarked scheme) :
    SchemeSplit (scheme ++ "://" ++ rest) scheme rest where
  joined := rfl
  first front back marked := by
    rw [← String.toList_inj, String.toList_append, String.toList_append, String.toList_append,
      String.toList_append] at marked
    rw [← String.length_toList, ← String.length_toList]
    refine no_earlier_mark _ _ _ _ (fun before after same => ?_) marked
    rw [← joined_iff] at same
    exact unmarked _ _ same

namespace ResolverBuilder

theorem parse_target_unmarked (builder : ResolverBuilder) (raw : String)
    (unmarked : Unmarked raw) : builder.parseTarget raw = Target.parse raw := by
  rw [parseTarget, stripScheme, (split_scheme_none_iff raw).2 unmarked]
  rfl

theorem parse_target_marked (builder : ResolverBuilder) {uri scheme rest : String}
    (split : SchemeSplit uri scheme rest) :
    builder.parseTarget uri =
      if Text.equalFold scheme builder.scheme then Target.parse rest
      else .error (.unsupportedScheme scheme) := by
  rw [parseTarget, stripScheme, split_scheme_of_split split]
  simp only [String.ofList_toList]
  split
  · rfl
  · rfl

end ResolverBuilder

end ServiceDiscovery
