import Mathlib.Data.List.Induction
import ServiceDiscovery.Proofs.Target.Scheme
import ServiceDiscovery.SchemeRegistry

namespace ServiceDiscovery

open Text

variable {H : Type}

namespace SchemeRegistry

def registered (plugins : List (Plugin H)) : SchemeRegistry H :=
  plugins.foldl (fun registry plugin => (registry.register plugin).1) .empty

def latest? (plugins : List (Plugin H)) (scheme : String) : Option (Plugin H) :=
  plugins.reverse.find? fun plugin => equalFold plugin.scheme scheme

theorem lookup_put (key query : String) (plugin : Plugin H) (entries : List (String × Plugin H)) :
    (put key plugin entries).lookup query =
      if query = key then some plugin else entries.lookup query := by
  induction entries with
  | nil =>
      by_cases hit : query = key
      · simp [put, hit]
      · simp [put, hit, List.lookup_cons, beq_false_of_ne hit]
  | cons entry rest ih =>
      rcases entry with ⟨head, old⟩
      by_cases same : key = head
      · subst head
        by_cases hit : query = key
        · simp [put, hit]
        · simp [put, hit, List.lookup_cons, beq_false_of_ne hit]
      · by_cases less : key < head
        · by_cases hit : query = key
          · simp [put, same, less, hit]
          · simp [put, same, less, hit, List.lookup_cons, beq_false_of_ne hit]
        · by_cases hit : query = head
          · subst head
            simp [put, same, less, Ne.symm same]
          · simp [put, same, less, List.lookup_cons, beq_false_of_ne hit, ih]

theorem mem_keys_put (key query : String) (plugin : Plugin H)
    (entries : List (String × Plugin H)) :
    query ∈ (put key plugin entries).map (·.1) ↔ query = key ∨ query ∈ entries.map (·.1) := by
  induction entries with
  | nil => simp [put]
  | cons entry rest ih =>
      rcases entry with ⟨head, old⟩
      by_cases same : key = head
      · simp [put, same]
      · by_cases less : key < head
        · simp [put, same, less]
        · rw [put, if_neg same, if_neg less, List.map_cons, List.mem_cons, ih, List.map_cons,
            List.mem_cons]
          exact or_left_comm

theorem ascending_put (key : String) (plugin : Plugin H) (entries : List (String × Plugin H))
    (ascending : (entries.map (·.1)).Pairwise (· < ·)) :
    ((put key plugin entries).map (·.1)).Pairwise (· < ·) := by
  induction entries with
  | nil => exact List.pairwise_singleton _ _
  | cons entry rest ih =>
      rcases entry with ⟨head, old⟩
      obtain ⟨above, tail⟩ := List.pairwise_cons.1 ascending
      by_cases same : key = head
      · subst head
        rw [put, if_pos rfl]
        exact ascending
      · by_cases less : key < head
        · rw [put, if_neg same, if_pos less]
          refine List.pairwise_cons.2 ⟨fun query there => ?_, ascending⟩
          rcases List.mem_cons.1 there with rfl | later
          · exact less
          · exact String.lt_trans less (above query later)
        · rw [put, if_neg same, if_neg less]
          have greater : head < key := String.not_le.1 fun before =>
            same (String.le_antisymm before (String.not_lt.1 less))
          refine List.pairwise_cons.2 ⟨fun query there => ?_, ih tail⟩
          rcases (mem_keys_put key query plugin rest).1 there with rfl | old
          · exact greater
          · exact above query old

theorem get_register (registry : SchemeRegistry H) (plugin : Plugin H) (scheme : String) :
    (registry.register plugin).1.get? scheme =
      if equalFold plugin.scheme scheme then some plugin else registry.get? scheme := by
  rw [register, get?, lookup_put, equalFold]
  by_cases same : lower scheme = lower plugin.scheme
  · rw [if_pos same, same, beq_self_eq_true, if_pos rfl]
  · rw [if_neg same, beq_false_of_ne (Ne.symm same)]
    rfl

theorem displaced_register (registry : SchemeRegistry H) (plugin : Plugin H) :
    (registry.register plugin).2.1 = registry.get? plugin.scheme := by
  rw [register, get?, get?, lower_lower]

theorem get_registered (plugins : List (Plugin H)) (scheme : String) :
    (registered plugins).get? scheme = latest? plugins scheme := by
  induction plugins using List.reverseRecOn with
  | nil => rfl
  | append_singleton plugins plugin ih =>
      rw [registered, List.foldl_append, List.foldl_cons, List.foldl_nil, ← registered,
        get_register, ih, latest?, latest?, List.reverse_append, List.reverse_singleton,
        List.singleton_append, List.find?_cons]
      cases equalFold plugin.scheme scheme with
      | true => rfl
      | false => rfl

theorem ascending_registered (plugins : List (Plugin H)) :
    (registered plugins).schemes.Pairwise (· < ·) := by
  induction plugins using List.reverseRecOn with
  | nil => exact List.Pairwise.nil
  | append_singleton plugins plugin ih =>
      rw [registered, List.foldl_append, List.foldl_cons, List.foldl_nil, ← registered]
      exact ascending_put _ plugin _ ih

theorem mem_schemes_registered (plugins : List (Plugin H)) (scheme : String) :
    scheme ∈ (registered plugins).schemes ↔ ∃ plugin ∈ plugins, lower plugin.scheme = scheme := by
  induction plugins using List.reverseRecOn with
  | nil => simp [registered, schemes, empty]
  | append_singleton plugins plugin ih =>
      rw [registered, List.foldl_append, List.foldl_cons, List.foldl_nil, ← registered]
      refine (mem_keys_put _ scheme plugin _).trans ?_
      rw [← schemes, ih]
      simp only [List.mem_append, List.mem_singleton]
      grind

theorem build_unmarked (registry : SchemeRegistry H) (uri : String)
    (unmarked : ∀ front back, uri ≠ front ++ "://" ++ back) :
    registry.build uri = ⟨.error (.invalidUri uri), []⟩ := by
  rw [build, (split_scheme_none_iff uri).2 unmarked]

theorem build_split (registry : SchemeRegistry H) (uri scheme rest : String)
    (split : SchemeSplit uri scheme rest) :
    registry.build uri =
      match registry.get? scheme with
      | none => ⟨.error (.unsupportedScheme scheme), []⟩
      | some plugin => plugin.build uri := by
  rw [build, split_scheme_of_split split]
  cases found : registry.get? scheme with
  | none => simp only [String.ofList_toList, found]
  | some plugin => simp only [String.ofList_toList, found]

end SchemeRegistry

namespace ResolverBuilder

theorem parse_target_split (builder : ResolverBuilder) (uri scheme rest : String)
    (split : SchemeSplit uri scheme rest) (own : equalFold builder.scheme scheme = true) :
    builder.parseTarget uri = Target.parse rest := by
  have known : equalFold scheme builder.scheme = true := by
    rw [equalFold, beq_iff_eq] at own ⊢
    exact own.symm
  rw [parse_target_marked builder split, if_pos known]

theorem parse_code (raw : String) (failure : Failure) (failed : Target.parse raw = .error failure) :
    failure.code = .missingAddress ∨ failure.code = .invalidUri := by
  unfold Target.parse at failed
  split at failed
  · cases failed
    exact .inl rfl
  · split at failed
    · cases failed
    · cases failed
      exact .inr rfl

theorem client_category (builder : ResolverBuilder) (target : Target) (failure : Failure)
    (failed : builder.client target = .error failure) : failure.code.category = .system := by
  unfold client Consul.Client.create at failed
  split at failed
  · cases failed
    rfl
  · split at failed
    · cases failed
      exact (rfl : FailureCode.configurationError.category = .system)
    · cases failed

theorem build_unparsed (builder : ResolverBuilder) (inRuntime : Bool) (raw : String)
    (failure : Failure) (failed : builder.parseTarget raw = .error failure) :
    builder.build inRuntime raw = ⟨.error failure, []⟩ := by
  rw [build, failed]
  rfl

-- Past its target a builder fails only for want of a client or a runtime.
theorem build_parsed (builder : ResolverBuilder) (inRuntime : Bool) (raw : String)
    (target : Target) (parsed : builder.parseTarget raw = .ok target) :
    (∀ resolver, (builder.build inRuntime raw).result = .ok resolver → resolver.target = target) ∧
      ∀ failure, (builder.build inRuntime raw).result = .error failure →
        failure.code.category = .system := by
  have next : builder.build inRuntime raw =
      attempt ((builder.client target).bind fun _ => start inRuntime target) := by
    rw [build, parsed]
    rfl
  rw [next]
  cases made : builder.client target with
  | error failure =>
      refine ⟨fun resolver built => ?_, fun other failed => ?_⟩
      · cases built
      · cases failed
        exact client_category builder target failure made
  | ok client =>
      cases inRuntime with
      | true =>
          refine ⟨fun resolver built => ?_, fun other failed => ?_⟩
          · cases built
            rfl
          · cases failed
      | false =>
          refine ⟨fun resolver built => ?_, fun other failed => ?_⟩
          · cases built
          · cases failed
            rfl

end ResolverBuilder

namespace SchemeRegistry

-- A registry and a builder compare schemes in the same way, so the plugin found knows its URIs.
theorem build_by_builder (registry : SchemeRegistry H) (builder : ResolverBuilder)
    (inRuntime : Bool) (handle : Resolver → H) (uri scheme rest : String)
    (split : SchemeSplit uri scheme rest) (own : equalFold builder.scheme scheme = true)
    (found : registry.get? scheme = some (builder.plugin inRuntime handle)) :
    match Target.parse rest with
    | .error failure =>
      registry.build uri = ⟨.error failure, []⟩ ∧ failure.code ≠ .unsupportedScheme
    | .ok target =>
      (∀ built, (registry.build uri).result = .ok built →
        ∃ resolver, built = handle resolver ∧ resolver.target = target) ∧
      ∀ failure, (registry.build uri).result = .error failure →
        failure.code.category = .system := by
  have parsed := builder.parse_target_split uri scheme rest split own
  have handed : registry.build uri = (builder.build inRuntime uri).map handle := by
    rw [build_split registry uri scheme rest split, found]
    rfl
  rw [handed]
  cases read : Target.parse rest with
  | error failure =>
      refine ⟨?_, ?_⟩
      · rw [builder.build_unparsed inRuntime uri failure (parsed.trans read)]
        rfl
      · rcases ResolverBuilder.parse_code rest failure read with code | code
        · rw [code]
          decide
        · rw [code]
          decide
  | ok target =>
      obtain ⟨same, system⟩ := builder.build_parsed inRuntime uri target (parsed.trans read)
      cases made : (builder.build inRuntime uri).result with
      | error failure =>
          have result : ((builder.build inRuntime uri).map handle).result = .error failure := by
            rw [Attempt.map, made]
            rfl
          refine ⟨fun built there => ?_, fun other there => ?_⟩
          · rw [result] at there
            cases there
          · rw [result] at there
            cases there
            exact system failure made
      | ok resolver =>
          have result : ((builder.build inRuntime uri).map handle).result =
              .ok (handle resolver) := by
            rw [Attempt.map, made]
            rfl
          refine ⟨fun built there => ?_, fun other there => ?_⟩
          · rw [result] at there
            cases there
            exact ⟨resolver, rfl, same resolver made⟩
          · rw [result] at there
            cases there

/-- After any registrations a scheme stands, in whatever case, for the plugin that was registered
last for it, and a URI goes as a whole to the plugin for what stands before its first `://`. A
builder that is handed a URI so never refuses its scheme. -/
theorem dispatch_by_scheme (plugins : List (Plugin H)) :
    let registry := registered plugins
    (∀ scheme, registry.get? scheme = latest? plugins scheme) ∧
    (∀ plugin, (registry.register plugin).2.1 = latest? plugins plugin.scheme) ∧
    registry.schemes.Pairwise (· < ·) ∧
    (∀ scheme, scheme ∈ registry.schemes ↔ ∃ plugin ∈ plugins, lower plugin.scheme = scheme) ∧
    ∀ uri,
      ((∀ front back, uri ≠ front ++ "://" ++ back) →
        registry.build uri = ⟨.error (.invalidUri uri), []⟩) ∧
      ∀ scheme rest, SchemeSplit uri scheme rest →
        (latest? plugins scheme = none →
          registry.build uri = ⟨.error (.unsupportedScheme scheme), []⟩) ∧
        (∀ plugin, latest? plugins scheme = some plugin →
          registry.build uri = plugin.build uri) ∧
        ∀ (builder : ResolverBuilder) (inRuntime : Bool) (handle : Resolver → H),
          latest? plugins scheme = some (builder.plugin inRuntime handle) →
          match Target.parse rest with
          | .error failure =>
            registry.build uri = ⟨.error failure, []⟩ ∧ failure.code ≠ .unsupportedScheme
          | .ok target =>
            (∀ built, (registry.build uri).result = .ok built →
              ∃ resolver, built = handle resolver ∧ resolver.target = target) ∧
            ∀ failure, (registry.build uri).result = .error failure →
              failure.code.category = .system := by
  intro registry
  have found (scheme : String) : registry.get? scheme = latest? plugins scheme :=
    get_registered plugins scheme
  have displaced (plugin : Plugin H) :
      (registry.register plugin).2.1 = latest? plugins plugin.scheme :=
    (displaced_register registry plugin).trans (found plugin.scheme)
  refine ⟨found, displaced, ascending_registered plugins, mem_schemes_registered plugins,
    fun uri => ⟨build_unmarked registry uri, ?_⟩⟩
  intro scheme rest split
  have handed := build_split registry uri scheme rest split
  rw [found] at handed
  refine ⟨fun absent => ?_, fun plugin last => ?_, fun builder inRuntime handle last => ?_⟩
  · rw [handed, absent]
  · rw [handed, last]
  · have own := List.find?_some last
    exact build_by_builder registry builder inRuntime handle uri scheme rest split own
      ((found scheme).trans last)

-- What stands before the second mark belongs to the target, which has no place for it.
theorem dispatch_past_second_mark :
    let refusing : Plugin Resolver := ⟨"CONSUL", fun _ => ⟨.error (.internal "refused"), []⟩⟩
    let plugins := [refusing, ResolverBuilder.default.plugin true id]
    let registry := registered plugins
    latest? plugins "Consul" = some (ResolverBuilder.default.plugin true id) ∧
    SchemeSplit "Consul://a://b" "Consul" "a://b" ∧
    registry.build "Consul://a://b" = ⟨.error (.invalidUri "a://b"), []⟩ ∧
    latest? plugins "dns" = none ∧ SchemeSplit "dns://b" "dns" "b" ∧
    registry.build "dns://b" = ⟨.error (.unsupportedScheme "dns"), []⟩ ∧
    registry.build "consul:/b" = ⟨.error (.invalidUri "consul:/b"), []⟩ := by
  intro refusing plugins registry
  obtain ⟨_, _, _, _, law⟩ := dispatch_by_scheme plugins
  have marked : SchemeSplit "Consul://a://b" "Consul" "a://b" :=
    (split_scheme_iff _ "Consul".toList "a://b".toList).1 (by decide)
  have foreign : SchemeSplit "dns://b" "dns" "b" :=
    (split_scheme_iff _ "dns".toList "b".toList).1 (by decide)
  have unmarked := (split_scheme_none_iff "consul:/b").1 (by decide)
  have last : latest? plugins "Consul" = some (ResolverBuilder.default.plugin true id) := rfl
  have others : equalFold "CONSUL" "dns" = false ∧ equalFold "consul" "dns" = false := by decide
  have absent : latest? plugins "dns" = none := by
    simp [latest?, plugins, refusing, ResolverBuilder.plugin, ResolverBuilder.default, others]
  have read : Target.parse "a://b" = .error (.invalidUri "a://b") := by decide
  have built := ((law "Consul://a://b").2 _ _ marked).2.2 _ _ _ last
  rw [read] at built
  exact ⟨last, marked, built.1, absent, foreign, ((law "dns://b").2 _ _ foreign).1 absent,
    (law "consul:/b").1 unmarked⟩

end SchemeRegistry

end ServiceDiscovery
