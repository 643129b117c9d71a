import Mathlib.Data.Nat.Digits.Defs
import ServiceDiscovery.Proofs.Target.Grammar
import ServiceDiscovery.Proofs.Target.Scheme

namespace ServiceDiscovery

open Text

-- Texts that differ at most in the case of ASCII letters.
def SameFold (a b : String) : Prop := a.toList.map Char.toLower = b.toList.map Char.toLower

instance (a b : String) : Decidable (SameFold a b) := inferInstanceAs (Decidable (_ = _))

theorem caseless_or_ascii (c : Char) : (lowerChar c = c ∧ c.toLower = c) ∨ c.toNat < 128 := by
  by_cases upper : ('A' ≤ c && c ≤ 'Z') = true
  · exact .inr (ascii_of_range (by decide) upper)
  · have other : ¬ (c.val ≥ 'A'.val ∧ c.val ≤ 'Z'.val) := by
      rwa [Bool.and_eq_true, decide_eq_true_eq, decide_eq_true_eq] at upper
    exact .inl ⟨if_neg upper, dif_neg other⟩

theorem lower_char_eq (c : Char) : lowerChar c = c.toLower := by
  rcases caseless_or_ascii c with ⟨same, other⟩ | ascii
  · rw [same, other]
  · exact Url.forall_ascii (p := fun c => lowerChar c = c.toLower) (by decide) c ascii

theorem equal_fold_iff (a b : String) : equalFold a b = true ↔ SameFold a b := by
  have lowered : lowerChar = Char.toLower := funext lower_char_eq
  rw [equalFold, beq_iff_eq, lower, lower, String.ofList_inj, lowered]
  exact Iff.rfl

theorem mark_of_lowered (part : List Char) (lowered : part.map Char.toLower = "://".toList) :
    part = "://".toList := by
  have caseless (c : Char) : (c.toLower = ':' → c = ':') ∧ (c.toLower = '/' → c = '/') := by
    rcases caseless_or_ascii c with ⟨_, same⟩ | ascii
    · rw [same]
      exact ⟨id, id⟩
    · exact Url.forall_ascii
        (p := fun c => (c.toLower = ':' → c = ':') ∧ (c.toLower = '/' → c = '/'))
        (by decide) c ascii
  obtain ⟨a, part, rfl, colon, lowered⟩ := List.map_eq_cons_iff.1 lowered
  obtain ⟨b, part, rfl, first, lowered⟩ := List.map_eq_cons_iff.1 lowered
  obtain ⟨c, part, rfl, second, lowered⟩ := List.map_eq_cons_iff.1 lowered
  rw [(caseless a).1 colon, (caseless b).2 first, (caseless c).2 second,
    List.map_eq_nil_iff.1 lowered]
  rfl

theorem unmarked_of_same_fold {a b : String} (same : SameFold a b) (unmarked : Unmarked b) :
    Unmarked a := by
  intro front back marked
  have lowered : b.toList.map Char.toLower =
      front.toList.map Char.toLower ++ "://".toList ++ back.toList.map Char.toLower := by
    rw [← same, marked, String.toList_append, String.toList_append, List.map_append,
      List.map_append]
    rfl
  obtain ⟨before, after, parts, head, _⟩ := List.map_eq_append_iff.1 lowered
  obtain ⟨scheme, mark, rfl, _, head⟩ := List.map_eq_append_iff.1 head
  rw [mark_of_lowered mark head] at parts
  exact unmarked _ _ ((joined_iff b scheme after).2 parts)

section

variable (target : Target)

theorem display_unmarked : Unmarked target.display := by
  intro front back marked
  have slashless : '/' ∉ target.service.toList := by
    intro inside
    exact absurd (List.all_eq_true.1 target.service_run.2 _ inside) (by decide)
  have foreign := Url.foreign_to_address target '/' (by decide)
  rw [Target.display, ← String.toList_inj, String.toList_append, String.toList_append,
    String.toList_append, String.toList_append, List.append_assoc, List.append_assoc] at marked
  have cut : target.registryAddress.toList ++ '/' :: target.service.toList =
      (front.toList ++ [':']) ++ '/' :: ('/' :: back.toList) := by
    rw [List.append_assoc]
    exact marked
  rcases (join_eq_iff '/' _ _ _ _).1 cut with ⟨_, same⟩ | ⟨part, same, _⟩ | ⟨part, _, same⟩
  · rw [same] at slashless
    exact slashless List.mem_cons_self
  · rw [same] at foreign
    exact foreign (List.mem_append_right _ List.mem_cons_self)
  · rw [same] at slashless
    exact slashless (List.mem_append_right _ List.mem_cons_self)

theorem decimal_written (port : UInt16) :
    WrittenIn digitAlphabet (toString port.toNat) ∧ (toString port.toNat).length ≤ 5 ∧
      portNumber (some (toString port.toNat)) = port.toNat := by
  have bound : port.toNat < 10 ^ 5 := Nat.lt_trans port.toNat_lt (by decide)
  rw [Nat.toString_eq_ofList_toDigits, String.length_ofList]
  refine ⟨(run_iff_written digit_iff _).1 ?_, Nat.toDigits_length 10 _ 5 (by decide) bound, ?_⟩
  · rw [String.toList_ofList]
    exact ⟨Nat.toDigits_ne_nil, List.all_eq_true.2 (ascii_digit_of_decimal _)⟩
  · rw [portNumber, Option.elim_some, String.toList_ofList, Nat.ofDigitChars_ten_toDigits]

theorem display_split :
    TargetSplit target.display target.host (some (toString target.port.toNat)) target.service := by
  obtain ⟨written, short, value⟩ := decimal_written target.port
  refine ⟨?_, (run_iff_written host_char_iff _).1 target.host_run, ?_, ?_,
    (run_iff_written service_char_iff _).1 target.service_run⟩
  · rw [Target.display, Target.registryAddress, Option.elim_some, ← String.append_assoc]
  · intro digits there
    obtain rfl := Option.some.inj there
    exact ⟨written, short⟩
  · rw [value]
    exact Nat.le_of_lt_succ target.port.toNat_lt

theorem parse_display : Target.parse target.display = .ok target :=
  (Target.parse_iff_split _ target).2
    ⟨_, display_split target, (decimal_written target.port).2.2.symm⟩

end

/-- A target is read again from its text, and from its registry's address with its service below,
by itself or by a builder; below a scheme just by the builders of that scheme, in whatever case. -/
theorem written_target_read (target : Target) :
    Target.parse target.display = .ok target ∧
    Target.parse (target.registryAddress ++ "/" ++ target.service) = .ok target ∧
    ∀ builder : ResolverBuilder, Unmarked builder.scheme →
      builder.parseTarget target.display = .ok target ∧
      ∀ scheme,
        (SameFold scheme builder.scheme →
          builder.parseTarget (scheme ++ "://" ++ target.display) = .ok target) ∧
        (Unmarked scheme → ¬ SameFold scheme builder.scheme →
          ∃ failure, builder.parseTarget (scheme ++ "://" ++ target.display) = .error failure ∧
            failure.code = .unsupportedScheme ∧ failure.params = [("scheme", scheme)]) := by
  refine ⟨parse_display target, parse_display target, fun builder own => ⟨?_, fun scheme => ?_⟩⟩
  · rw [builder.parse_target_unmarked _ (display_unmarked target)]
    exact parse_display target
  · refine ⟨fun same => ?_, fun unmarked other => ?_⟩
    · have split := scheme_split_of_unmarked scheme target.display
        (unmarked_of_same_fold same own)
      rw [builder.parse_target_marked split, if_pos ((equal_fold_iff _ _).2 same)]
      exact parse_display target
    · have split := scheme_split_of_unmarked scheme target.display unmarked
      rw [builder.parse_target_marked split, if_neg (mt (equal_fold_iff _ _).1 other)]
      exact ⟨_, rfl, rfl, rfl⟩

theorem marked_target_read :
    let target : Target := ⟨"consul.local", 80, "orders", by decide, by decide⟩
    let builder : ResolverBuilder := ⟨"Consul:/", .default, .default⟩
    Unmarked builder.scheme ∧ SameFold "cONSUL:/" builder.scheme ∧
    builder.parseTarget "cONSUL:/://consul.local:80/orders" = .ok target ∧
    Unmarked "Consul" ∧ ¬ SameFold "Consul" builder.scheme ∧
    ∃ failure, builder.parseTarget "Consul://consul.local:80/orders" = .error failure ∧
      failure.code = .unsupportedScheme ∧ failure.params = [("scheme", "Consul")] := by
  intro target builder
  have own : Unmarked builder.scheme := by
    decide
  have same : SameFold "cONSUL:/" builder.scheme := by
    decide
  have unmarked : Unmarked "Consul" := by
    decide
  have other : ¬ SameFold "Consul" builder.scheme := by
    decide
  have spelled : "cONSUL:/" ++ "://" ++ target.display = "cONSUL:/://consul.local:80/orders" := by
    decide +kernel
  have respelled : "Consul" ++ "://" ++ target.display = "Consul://consul.local:80/orders" := by
    decide +kernel
  obtain ⟨_, _, read⟩ := written_target_read target
  obtain ⟨_, below⟩ := read builder own
  have accepted := (below "cONSUL:/").1 same
  have refused := (below "Consul").2 unmarked other
  rw [spelled] at accepted
  rw [respelled] at refused
  exact ⟨own, same, accepted, unmarked, other, refused⟩

end ServiceDiscovery
