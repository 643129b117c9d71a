import Mathlib.Tactic.MkIffOfInductiveProp
import ServiceDiscovery.Proofs.Text.Separator
import ServiceDiscovery.Proofs.Url.Reading
import ServiceDiscovery.Target

namespace ServiceDiscovery

open Text

def serviceAlphabet : String := "ABCDEFGHIJKLMNOPQRSTUVWXYZabcdefghijklmnopqrstuvwxyz_"
def digitAlphabet : String := "0123456789"
def hostAlphabet : String := serviceAlphabet ++ digitAlphabet ++ ".-"

def WrittenIn (alphabet text : String) : Prop :=
  text ≠ "" ∧ ∀ c ∈ text.toList, c ∈ alphabet.toList

instance (alphabet text : String) : Decidable (WrittenIn alphabet text) :=
  @instDecidableAnd _ _ inferInstance (List.decidableBAll _ _)

def portNumber (digits : Option String) : Nat :=
  digits.elim 8500 fun digits => Nat.ofDigitChars 10 digits.toList 0

@[mk_iff]
structure TargetSplit (raw host : String) (digits : Option String) (service : String) : Prop where
  joined : raw = host ++ digits.elim "" (":" ++ ·) ++ "/" ++ service
  host_written : WrittenIn hostAlphabet host
  digits_written : ∀ d ∈ digits, WrittenIn digitAlphabet d ∧ d.length ≤ 5
  port_fits : portNumber digits ≤ 65535
  service_written : WrittenIn serviceAlphabet service

instance (raw host : String) (digits : Option String) (service : String) :
    Decidable (TargetSplit raw host digits service) :=
  decidable_of_iff' _ (targetSplit_iff raw host digits service)

section

variable {charClass : Char → Bool} {alphabet : String}

-- A class of ASCII characters is an alphabet if the two agree on these.
theorem class_of_alphabet (ascii : ∀ c, charClass c = true → c.toNat < 128)
    (listed : ∀ n < 128, charClass (Char.ofNat n) = true → Char.ofNat n ∈ alphabet.toList)
    (legal : alphabet.toList.all charClass = true) (c : Char) :
    charClass c = true ↔ c ∈ alphabet.toList := by
  refine ⟨fun classed => ?_, List.all_eq_true.1 legal c⟩
  exact Url.forall_ascii (p := fun c => charClass c = true → c ∈ alphabet.toList) listed c
    (ascii c classed) classed

theorem run_iff_written (same : ∀ c, charClass c = true ↔ c ∈ alphabet.toList) (text : String) :
    IsRun charClass text.toList ↔ WrittenIn alphabet text := by
  refine and_congr (not_congr String.toList_eq_nil_iff) ?_
  rw [List.all_eq_true]
  exact forall₂_congr fun c _ => same c

end

theorem digit_iff (c : Char) : isAsciiDigit c = true ↔ c ∈ digitAlphabet.toList :=
  class_of_alphabet (fun _ digit => ascii_of_digit digit) (by decide +kernel) (by decide) c

theorem host_char_iff (c : Char) : isHostChar c = true ↔ c ∈ hostAlphabet.toList :=
  class_of_alphabet Url.ascii_of_host_char (by decide +kernel) (by decide +kernel) c

theorem service_char_iff (c : Char) : isServiceChar c = true ↔ c ∈ serviceAlphabet.toList :=
  class_of_alphabet (fun c service => Url.ascii_of_host_char c (Url.host_char_of_service c service))
    (by decide +kernel) (by decide +kernel) c

namespace Target

theorem of_parts_iff (host : List Char) (port : UInt16) (service : List Char) (target : Target) :
    ofParts? host port service = some target ↔
      host = target.host.toList ∧ port = target.port ∧ service = target.service.toList := by
  constructor
  · intro made
    rw [ofParts?] at made
    split at made
    · cases made
      exact ⟨String.toList_ofList.symm, rfl, String.toList_ofList.symm⟩
    · cases made
  · rintro ⟨rfl, rfl, rfl⟩
    rw [ofParts?, dif_pos ⟨target.host_run, target.service_run⟩]
    simp only [String.ofList_toList]

theorem port_iff (number : List Char) (port : UInt16) :
    port? number = some port ↔
      IsRun isAsciiDigit number ∧ number.length ≤ 5 ∧ numeral 10 number = port.toNat := by
  have bound := port.toNat_lt
  constructor
  · intro read
    rw [port?] at read
    split at read
    · rename_i legal
      obtain ⟨run, short, fits⟩ := legal
      cases read
      exact ⟨run, short, (UInt16.toNat_ofNat_of_lt' fits).symm⟩
    · cases read
  · rintro ⟨run, short, value⟩
    rw [port?, if_pos ⟨run, short, value ▸ bound⟩, value, UInt16.ofNat_toNat]

def portText (port : Option (List Char)) : List Char := port.elim [] (':' :: ·)

theorem of_chars_joined (chars : List Char) (target : Target)
    (read : ofChars? chars = some target) :
    ∃ port, chars = target.host.toList ++ (portText port ++ '/' :: target.service.toList) ∧
      port.elim (some defaultPort) port? = some target.port := by
  have whole := List.takeWhile_append_dropWhile (p := isHostChar) (l := chars)
  unfold ofChars? at read
  split at read
  · rename_i service after
    obtain ⟨host, port, rfl⟩ := (of_parts_iff _ _ _ _).1 read
    rw [after, host] at whole
    exact ⟨none, whole.symm, congrArg some port⟩
  · rename_i rest after
    have number := List.takeWhile_append_dropWhile (p := isAsciiDigit) (l := rest)
    split at read
    · rename_i service below
      obtain ⟨port, written, made⟩ := Option.bind_eq_some_iff.1 read
      obtain ⟨host, rfl, rfl⟩ := (of_parts_iff _ _ _ _).1 made
      rw [below] at number
      rw [after, host, ← number] at whole
      exact ⟨some (rest.takeWhile isAsciiDigit), whole.symm, written⟩
    · cases read
  · cases read

theorem of_chars_of_joined (target : Target) (port : Option (List Char))
    (number : port.elim (some defaultPort) port? = some target.port) :
    ofChars? (target.host.toList ++ (portText port ++ '/' :: target.service.toList)) =
      some target := by
  have host : ∀ c ∈ target.host.toList, isHostChar c = true :=
    List.all_eq_true.1 target.host_run.2
  have made := (of_parts_iff target.host.toList target.port target.service.toList target).2
    ⟨rfl, rfl, rfl⟩
  cases port with
  | none =>
      have ends : ∀ c ∈ ('/' :: target.service.toList).head?, isHostChar c = false := by
        rintro c ⟨⟩
        decide
      have own : defaultPort = target.port := Option.some.inj number
      rw [portText, Option.elim_none, List.nil_append, ofChars?, drop_while_until _ _ host ends,
        take_while_until _ _ host ends, own]
      exact made
  | some written =>
      have ends : ∀ c ∈ (':' :: (written ++ '/' :: target.service.toList)).head?,
          isHostChar c = false := by
        rintro c ⟨⟩
        decide
      have below : ∀ c ∈ ('/' :: target.service.toList).head?, isAsciiDigit c = false := by
        rintro c ⟨⟩
        decide
      have legal : ∀ c ∈ written, isAsciiDigit c = true :=
        List.all_eq_true.1 ((port_iff written target.port).1 number).1.2
      have read : port? written = some target.port := number
      rw [portText, Option.elim_some, List.cons_append, ofChars?, drop_while_until _ _ host ends,
        take_while_until _ _ host ends]
      simp only [drop_while_until _ _ legal below, take_while_until _ _ legal below, read]
      exact made

theorem parse_ok_iff (raw : String) (target : Target) :
    parse raw = .ok target ↔ ofChars? raw.toList = some target := by
  rw [parse]
  by_cases empty : raw = ""
  · have unread : ofChars? "".toList = none := rfl
    rw [if_pos empty, empty, unread]
    simp
  · rw [if_neg empty]
    cases ofChars? raw.toList with
    | none => simp
    | some other => simp

theorem parse_error (raw : String) (failure : Failure) (refused : parse raw = .error failure) :
    failure = if raw = "" then .missingAddress else .invalidUri raw := by
  rw [parse] at refused
  split at refused
  · rename_i empty
    rw [if_pos empty]
    exact (Except.error.inj refused).symm
  · rename_i written
    rw [if_neg written]
    split at refused
    · cases refused
    · exact (Except.error.inj refused).symm

theorem joined_to_list (raw host : String) (digits : Option String) (service : String) :
    raw = host ++ digits.elim "" (":" ++ ·) ++ "/" ++ service ↔
      raw.toList =
        host.toList ++ (portText (digits.map String.toList) ++ '/' :: service.toList) := by
  rw [← String.toList_inj, String.toList_append, String.toList_append, String.toList_append,
    List.append_assoc, List.append_assoc]
  cases digits with
  | none => rfl
  | some number => rw [Option.elim_some, String.toList_append]; rfl

theorem port_read_iff (digits : Option String) (port : UInt16) :
    (digits.map String.toList).elim (some defaultPort) port? = some port ↔
      (∀ d ∈ digits, WrittenIn digitAlphabet d ∧ d.length ≤ 5) ∧
        port.toNat = portNumber digits := by
  cases digits with
  | none =>
      rw [Option.map_none, Option.elim_none, Option.some.injEq, eq_comm, ← UInt16.toNat_inj]
      simp [portNumber, defaultPort]
  | some number =>
      rw [Option.map_some, Option.elim_some, port_iff, run_iff_written digit_iff,
        String.length_toList, portNumber, Option.elim_some]
      have value (written : WrittenIn digitAlphabet number) :
          numeral 10 number.toList = Nat.ofDigitChars 10 number.toList 0 :=
        numeral_of_digits _ 0 fun c inside => (digit_iff c).2 (written.2 c inside)
      constructor
      · rintro ⟨written, short, same⟩
        refine ⟨fun d there => ?_, by rw [← same, value written]⟩
        obtain rfl := Option.some.inj there
        exact ⟨written, short⟩
      · rintro ⟨written, same⟩
        obtain ⟨written, short⟩ := written number rfl
        exact ⟨written, short, by rw [same, value written]⟩

theorem parse_iff_split (raw : String) (target : Target) :
    parse raw = .ok target ↔
      ∃ digits, TargetSplit raw target.host digits target.service ∧
        target.port.toNat = portNumber digits := by
  rw [parse_ok_iff]
  constructor
  · intro read
    obtain ⟨port, joined, number⟩ := of_chars_joined _ _ read
    have same : (port.map String.ofList).map String.toList = port := by
      cases port with
      | none => rfl
      | some digits => simp
    rw [← same] at joined number
    obtain ⟨written, value⟩ := (port_read_iff _ _).1 number
    have bound := target.port.toNat_lt
    refine ⟨port.map String.ofList, ⟨(joined_to_list _ _ _ _).2 joined, ?_, written, ?_, ?_⟩, value⟩
    · exact (run_iff_written host_char_iff _).1 target.host_run
    · omega
    · exact (run_iff_written service_char_iff _).1 target.service_run
  · rintro ⟨digits, split, value⟩
    rw [(joined_to_list _ _ _ _).1 split.joined]
    exact of_chars_of_joined target _ ((port_read_iff _ _).2 ⟨split.digits_written, value⟩)

section

variable {raw host service : String} {digits : Option String}

theorem parse_of_split (split : TargetSplit raw host digits service) :
    ∃ target, parse raw = .ok target ∧ target.host = host ∧
      target.port.toNat = portNumber digits ∧ target.service = service := by
  have fits : portNumber digits < 2 ^ 16 := Nat.lt_succ_of_le split.port_fits
  have port : (UInt16.ofNat (portNumber digits)).toNat = portNumber digits :=
    UInt16.toNat_ofNat_of_lt' fits
  have host_run := (run_iff_written host_char_iff host).2 split.host_written
  have service_run := (run_iff_written service_char_iff service).2 split.service_written
  refine ⟨⟨host, UInt16.ofNat (portNumber digits), service, host_run, service_run⟩, ?_, rfl, port,
    rfl⟩
  exact (parse_iff_split raw _).2 ⟨digits, split, port⟩

theorem port_text_inj (one other : Option String)
    (same : portText (one.map String.toList) = portText (other.map String.toList)) :
    one = other := by
  cases one with
  | none =>
      cases other with
      | none => rfl
      | some digits => cases same
  | some digits =>
      cases other with
      | none => cases same
      | some others => rw [String.toList_inj.1 (List.cons.inj same).2]

theorem split_unique {otherHost otherService : String} {otherDigits : Option String}
    (one : TargetSplit raw host digits service)
    (other : TargetSplit raw otherHost otherDigits otherService) :
    host = otherHost ∧ digits = otherDigits ∧ service = otherService := by
  obtain ⟨target, read, rfl, _, rfl⟩ := parse_of_split one
  obtain ⟨same, again, rfl, _, rfl⟩ := parse_of_split other
  obtain rfl := Except.ok.inj (read.symm.trans again)
  have joined := (joined_to_list _ _ _ _).1 one.joined
  rw [(joined_to_list _ _ _ _).1 other.joined] at joined
  have between := List.append_cancel_right (List.append_cancel_left joined)
  exact ⟨rfl, port_text_inj _ _ between.symm, rfl⟩

end

/-- A text is a target just when it falls into `host[:digits]/service`, and then in one way only:
its parts are the target's, without digits at port 8500. Of the other texts the empty one lacks
an address, and the rest are named as they are. -/
theorem parsed_by_grammar (raw : String) :
    ((∃ target, parse raw = .ok target) ↔
      ∃ host digits service, TargetSplit raw host digits service) ∧
    (∀ host digits service, TargetSplit raw host digits service →
      (∀ target, parse raw = .ok target →
        target.host = host ∧ target.port.toNat = portNumber digits ∧ target.service = service) ∧
      ∀ otherHost otherDigits otherService,
        TargetSplit raw otherHost otherDigits otherService →
          host = otherHost ∧ digits = otherDigits ∧ service = otherService) ∧
    ((¬ ∃ host digits service, TargetSplit raw host digits service) →
      ∃ failure, parse raw = .error failure ∧
        if raw = "" then failure.code = .missingAddress
        else failure.code = .invalidUri ∧ failure.params = [("target", raw)]) := by
  have accepted : (∃ target, parse raw = .ok target) ↔
      ∃ host digits service, TargetSplit raw host digits service := by
    constructor
    · rintro ⟨target, read⟩
      obtain ⟨digits, split, _⟩ := (parse_iff_split raw target).1 read
      exact ⟨_, digits, _, split⟩
    · rintro ⟨host, digits, service, split⟩
      obtain ⟨target, read, _⟩ := parse_of_split split
      exact ⟨target, read⟩
  refine ⟨accepted, fun host digits service split => ⟨fun target read => ?_, ?_⟩, fun unsplit => ?_⟩
  · obtain ⟨same, again, parts⟩ := parse_of_split split
    obtain rfl := Except.ok.inj (read.symm.trans again)
    exact parts
  · exact fun _ _ _ other => split_unique split other
  · cases read : parse raw with
    | ok target => exact absurd (accepted.1 ⟨target, read⟩) unsplit
    | error failure =>
        refine ⟨failure, rfl, ?_⟩
        rw [parse_error raw failure read]
        split
        · rfl
        · exact ⟨rfl, rfl⟩

-- Leading zeros are digits like any others, and no line ends behind a service.
theorem padded_port_by_grammar :
    let padded := "consul.local:00080/orders"
    let ended := "consul.local/orders\n"
    TargetSplit padded "consul.local" (some "00080") "orders" ∧
    (∃ target, parse padded = .ok target ∧
      target.host = "consul.local" ∧ target.port.toNat = 80 ∧ target.service = "orders") ∧
    (¬ ∃ host digits service, TargetSplit ended host digits service) ∧
    ∃ failure, parse ended = .error failure ∧
      failure.code = .invalidUri ∧ failure.params = [("target", ended)] := by
  intro padded ended
  have split : TargetSplit padded "consul.local" (some "00080") "orders" := by
    decide +kernel
  have value : portNumber (some "00080") = 80 := by
    decide +kernel
  obtain ⟨accepted, parts, _⟩ := parsed_by_grammar padded
  obtain ⟨target, read⟩ := accepted.2 ⟨_, _, _, split⟩
  obtain ⟨host, port, service⟩ := (parts _ _ _ split).1 target read
  obtain ⟨unaccepted, _, refused⟩ := parsed_by_grammar ended
  have unread : parse ended = .error (.invalidUri ended) := by
    decide +kernel
  have unsplit : ¬ ∃ host digits service, TargetSplit ended host digits service := by
    intro parted
    obtain ⟨other, found⟩ := unaccepted.2 parted
    cases found.symm.trans unread
  obtain ⟨failure, same, named⟩ := refused unsplit
  have written : ended ≠ "" := by
    decide
  rw [if_neg written] at named
  exact ⟨split, ⟨target, read, host, port.trans value, service⟩, unsplit, failure, same, named⟩

end Target

end ServiceDiscovery
