import ServiceDiscovery.Proofs.Toml.Keys
import ServiceDiscovery.Proofs.Url.Reading
import ServiceDiscovery.Resolver

namespace ServiceDiscovery.Config

open Toml

def document? (text : String) : Option Entries :=
  match parse? text with
  | some (.table .header entries) => some entries
  | _ => none

-- A text is a document when it parses to the last of its numbers: a number that is in no type of
-- numbers is a fault of the text, wherever it stands.
structure Reads (text : String) (entries : Entries) : Prop where
  parsed : document? text = some entries
  readable : areEntriesReadable entries = true

def isTable : Value → Bool
  | .table _ _ => true
  | _ => false

def Tabular (entries : Entries) : Prop :=
  ∀ name ∈ ["client", "watch", "logging"], ∀ v ∈ entries.lookup name, isTable v = true

instance (entries : Entries) : Decidable (Tabular entries) :=
  inferInstanceAs (Decidable (∀ name ∈ _, ∀ v ∈ entries.lookup name, isTable v = true))

def part (entries : Entries) (name : String) : Entries :=
  match entries.lookup name with
  | some (.table _ fields) => fields
  | _ => []

def given (entries : Entries) (name key : String) : Option Value := (part entries name).lookup key

def recognised : List (String × String) :=
  [("client", "interval_secs"), ("client", "pool_size"), ("client", "auth_pass"),
    ("watch", "passing_only"), ("watch", "filter_by_service_tag"), ("watch", "backoff_base_ms"),
    ("watch", "backoff_max_ms"), ("watch", "request_timeout_ms"),
    ("logging", "level"), ("logging", "format")]

def Sets (given : Option Value) (means : Value → α → Prop) (default a : α) : Prop :=
  match given with
  | none => a = default
  | some v => means v a

def IsBool (v : Value) (b : Bool) : Prop := v = .boolean b

def IsNumber (v : Value) (n : UInt64) : Prop := v = .integer n.toNat

def IsText (v : Value) (s : String) : Prop := v = .string s

def IsToken (v : Value) (token : Option String) : Prop := ∃ s, v = .string s ∧ token = some s

def IsSeconds (v : Value) (d : Duration) : Prop :=
  ∃ n : UInt64, v = .integer n.toNat ∧ d.nanos = n.toNat * 10 ^ 9

structure DescribesClient (given : String → Option Value) (options : ClientOptions) : Prop where
  interval : Sets (given "interval_secs") IsSeconds ClientOptions.default.interval options.interval
  poolSize : Sets (given "pool_size") IsNumber ClientOptions.default.poolSize options.poolSize
  authPass : Sets (given "auth_pass") IsToken ClientOptions.default.authPass options.authPass

structure DescribesWatch (given : String → Option Value) (watch : WatchConfig) : Prop where
  passingOnly : Sets (given "passing_only") IsBool WatchConfig.default.passingOnly
    watch.passingOnly
  filterByServiceTag : Sets (given "filter_by_service_tag") IsBool
    WatchConfig.default.filterByServiceTag watch.filterByServiceTag
  backoffBaseMs : Sets (given "backoff_base_ms") IsNumber WatchConfig.default.backoffBaseMs
    watch.backoffBaseMs
  backoffMaxMs : Sets (given "backoff_max_ms") IsNumber WatchConfig.default.backoffMaxMs
    watch.backoffMaxMs
  requestTimeoutMs : Sets (given "request_timeout_ms") IsNumber
    WatchConfig.default.requestTimeoutMs watch.requestTimeoutMs

structure DescribesLogging (given : String → Option Value) (logging : LoggingConfig) : Prop where
  level : Sets (given "level") IsText LoggingConfig.default.level logging.level
  format : Sets (given "format") IsText LoggingConfig.default.format logging.format

structure Describes (entries : Entries) (config : Config) : Prop where
  client : DescribesClient (given entries "client") config.client
  watch : DescribesWatch (given entries "watch") config.watch
  logging : DescribesLogging (given entries "logging") config.logging

structure InBounds (config : Config) : Prop where
  interval_pos : 1 ≤ config.client.interval.secs
  interval_le : config.client.interval.secs ≤ 600
  pool_pos : 1 ≤ config.client.poolSize.toNat
  backoff_pos : 1 ≤ config.watch.backoffBaseMs.toNat
  backoff_le : config.watch.backoffBaseMs.toNat ≤ config.watch.backoffMaxMs.toNat

section

variable {v : Value}

theorem bool_iff (b : Bool) : Toml.format.bool? v = some b ↔ IsBool v b := by
  unfold IsBool
  cases v <;> simp [Toml.format, bool?]

theorem text_iff (s : String) : Toml.format.text? v = some s ↔ IsText v s := by
  unfold IsText
  cases v <;> simp [Toml.format, text?]

theorem number_iff (n : UInt64) : Toml.format.uint64? v = some n ↔ IsNumber v n := by
  have plain : Toml.format.uint64? v = uint64? v := rfl
  rw [plain]
  constructor
  · intro read
    cases v with
    | integer k =>
        rw [uint64?] at read
        split at read
        · rename_i fits
          cases read
          have whole : (UInt64.ofNat k.toNat).toNat = k.toNat :=
            UInt64.toNat_ofNat_of_lt' ((Int.toNat_lt fits.1).2 fits.2)
          rw [IsNumber, whole, Int.toNat_of_nonneg fits.1]
        · cases read
    | _ => cases read
  · rintro rfl
    have below := n.toNat_lt
    rw [uint64?, if_pos (by omega), Int.toNat_natCast, UInt64.ofNat_toNat]

theorem token_iff (token : Option String) :
    Toml.format.optionalText? v = some token ↔ IsToken v token := by
  have plain : Toml.format.optionalText? v = (Toml.format.text? v).map some := rfl
  rw [plain, Option.map_eq_some_iff]
  constructor
  · rintro ⟨s, read, rfl⟩
    exact ⟨s, (text_iff s).1 read, rfl⟩
  · rintro ⟨s, text, rfl⟩
    exact ⟨s, (text_iff s).2 text, rfl⟩

theorem seconds_iff (d : Duration) :
    (Toml.format.uint64? v).map Duration.ofSecs = some d ↔ IsSeconds v d := by
  rw [Option.map_eq_some_iff]
  constructor
  · rintro ⟨n, read, rfl⟩
    exact ⟨n, (number_iff n).1 read, rfl⟩
  · rintro ⟨n, number, nanos⟩
    exact ⟨n, (number_iff n).2 number, Duration.ext_nanos nanos.symm⟩

theorem bool_readable {b : Bool} (bool : IsBool v b) : v.isReadable = true := by
  rw [IsBool] at bool
  subst bool
  rfl

theorem text_readable {s : String} (text : IsText v s) : v.isReadable = true := by
  rw [IsText] at text
  subst text
  rfl

theorem number_readable {n : UInt64} (number : IsNumber v n) : v.isReadable = true := by
  rw [IsNumber] at number
  subst number
  rfl

theorem token_readable {token : Option String} (said : IsToken v token) :
    v.isReadable = true := by
  obtain ⟨_, text, _⟩ := said
  exact text_readable text

theorem seconds_readable {d : Duration} (seconds : IsSeconds v d) : v.isReadable = true := by
  obtain ⟨_, number, _⟩ := seconds
  exact number_readable number

end

section

variable {means : Value → α → Prop} {default a : α}

theorem sets_iff {read? : Value → Option α} {fields : Fields Value} {name : String}
    (reads : ∀ {v} a, read? v = some a ↔ means v a) :
    fields.defaulted name default read? = some a ↔ Sets (fields name) means default a := by
  unfold Fields.defaulted Sets
  cases fields name with
  | none => exact Option.some_inj.trans eq_comm
  | some v => exact reads a

theorem readable_of_sets {given : Option Value}
    (plain : ∀ {v a}, means v a → v.isReadable = true) (sets : Sets given means default a) :
    ∀ v, given = some v → v.isReadable = true := by
  rintro v rfl
  exact plain sets

end

theorem document_iff (text : String) (entries : Entries) :
    document? text = some entries ↔ parse? text = some (.table .header entries) := by
  unfold document?
  constructor
  · intro written
    split at written
    · rename_i parsed
      cases written
      exact parsed
    · cases written
  · intro parsed
    rw [parsed]

theorem table_of_is_table {v : Value} (table : isTable v = true) :
    ∃ origin fields, v = .table origin fields := by
  cases v with
  | table origin fields => exact ⟨origin, fields, rfl⟩
  | _ => cases table

section

variable {entries : Entries}

theorem readable_iff : areEntriesReadable entries = true ↔
    ∀ entry ∈ entries, entry.2.isReadable = true := by
  induction entries with
  | nil => exact ⟨fun _ _ inside => absurd inside List.not_mem_nil, fun _ => rfl⟩
  | cons entry rest ih =>
      rw [areEntriesReadable, Bool.and_eq_true, ih, List.forall_mem_cons]

-- A table is read as a record if all of it is readable: what is a field because it is read, and
-- the rest because it is looked at all the same.
theorem record_iff (keyed : Keyed entries) (names : List String) (origin : Origin)
    {read : Fields Value → Option α} (describes : α → Prop)
    (reads : ∀ a, read (fun key => entries.lookup key) = some a ↔ describes a)
    (asked : ∀ a, describes a → ∀ name ∈ names, ∀ v, entries.lookup name = some v →
      v.isReadable = true) (a : α) :
    (Toml.format.fields? names (.table origin entries)).bind read = some a ↔
      areEntriesReadable entries = true ∧ describes a := by
  have shown : Toml.format.fields? names (.table origin entries) =
      if entries.all fun entry => names.contains entry.1 || entry.2.isReadable then
        some fun key => entries.lookup key
      else none := by
    rw [← Fields.ofMembers?_of_distinct names entries keyed.keys]
    rfl
  rw [shown]
  constructor
  · intro read
    split at read
    · rename_i each
      have described := (reads a).1 read
      refine ⟨readable_iff.2 fun entry inside => ?_, described⟩
      rcases Bool.or_eq_true_iff.1 (List.all_eq_true.1 each entry inside) with known | readable
      · have found := lookup_of_mem keyed.keys inside
        exact asked a described entry.1 (List.contains_iff_mem.1 known) entry.2 found
      · exact readable
    · cases read
  · rintro ⟨readable, described⟩
    rw [if_pos (List.all_eq_true.2 fun entry inside => ?_)]
    · exact (reads a).2 described
    · rw [readable_iff.1 readable entry inside, Bool.or_true]

theorem client_iff (keyed : Keyed entries) (origin : Origin) (options : ClientOptions) :
    ClientOptions.read? Toml.format (.table origin entries) = some options ↔
      areEntriesReadable entries = true ∧
        DescribesClient (fun key => entries.lookup key) options := by
  refine record_iff keyed _ origin _ (fun options => ?_) (fun options described => ?_) options
  · simp only [Option.bind_eq_bind, Option.bind_eq_some_iff, Option.pure_def, Option.some_inj,
      sets_iff seconds_iff, sets_iff number_iff, sets_iff token_iff]
    constructor
    · rintro ⟨_, interval, _, pool, _, token, rfl⟩
      exact ⟨interval, pool, token⟩
    · rintro ⟨interval, pool, token⟩
      exact ⟨_, interval, _, pool, _, token, rfl⟩
  · simp only [List.forall_mem_cons, List.not_mem_nil, false_implies, implies_true, and_true]
    exact ⟨readable_of_sets seconds_readable described.interval,
      readable_of_sets number_readable described.poolSize,
      readable_of_sets token_readable described.authPass⟩

theorem watch_iff (keyed : Keyed entries) (origin : Origin) (watch : WatchConfig) :
    WatchConfig.read? Toml.format (.table origin entries) = some watch ↔
      areEntriesReadable entries = true ∧
        DescribesWatch (fun key => entries.lookup key) watch := by
  refine record_iff keyed _ origin _ (fun watch => ?_) (fun watch described => ?_) watch
  · simp only [Option.bind_eq_bind, Option.bind_eq_some_iff, Option.pure_def, Option.some_inj,
      sets_iff bool_iff, sets_iff number_iff]
    constructor
    · rintro ⟨_, passing, _, tagged, _, base, _, most, _, timeout, rfl⟩
      exact ⟨passing, tagged, base, most, timeout⟩
    · rintro ⟨passing, tagged, base, most, timeout⟩
      exact ⟨_, passing, _, tagged, _, base, _, most, _, timeout, rfl⟩
  · simp only [List.forall_mem_cons, List.not_mem_nil, false_implies, implies_true, and_true]
    exact ⟨readable_of_sets bool_readable described.passingOnly,
      readable_of_sets bool_readable described.filterByServiceTag,
      readable_of_sets number_readable described.backoffBaseMs,
      readable_of_sets number_readable described.backoffMaxMs,
      readable_of_sets number_readable described.requestTimeoutMs⟩

theorem logging_iff (keyed : Keyed entries) (origin : Origin) (logging : LoggingConfig) :
    LoggingConfig.read? Toml.format (.table origin entries) = some logging ↔
      areEntriesReadable entries = true ∧
        DescribesLogging (fun key => entries.lookup key) logging := by
  refine record_iff keyed _ origin _ (fun logging => ?_) (fun logging described => ?_) logging
  · simp only [Option.bind_eq_bind, Option.bind_eq_some_iff, Option.pure_def, Option.some_inj,
      sets_iff text_iff]
    constructor
    · rintro ⟨_, level, _, format, rfl⟩
      exact ⟨level, format⟩
    · rintro ⟨level, format⟩
      exact ⟨_, level, _, format, rfl⟩
  · simp only [List.forall_mem_cons, List.not_mem_nil, false_implies, implies_true, and_true]
    exact ⟨readable_of_sets text_readable described.level,
      readable_of_sets text_readable described.format⟩

theorem section_iff (keyed : Keyed entries) {read? : Value → Option α}
    {describes : (String → Option Value) → α → Prop} {default a : α} {name : String}
    (reads : ∀ {fields : Entries}, Keyed fields → ∀ origin a,
      read? (.table origin fields) = some a ↔
        areEntriesReadable fields = true ∧ describes (fun key => fields.lookup key) a)
    (bare : read? (.table .header []) = some default)
    (table : ∀ v ∈ entries.lookup name, isTable v = true) :
    Fields.defaulted (fun key => entries.lookup key) name default read? = some a ↔
      (∀ v, entries.lookup name = some v → v.isReadable = true) ∧
        describes (given entries name) a := by
  unfold Fields.defaulted given part
  dsimp only
  cases found : entries.lookup name with
  | none =>
      have empty := reads keyed_nil .header a
      rw [bare] at empty
      refine empty.trans (and_congr_left fun _ => ⟨fun _ v missing => ?_, fun _ => rfl⟩)
      cases missing
  | some v =>
      obtain ⟨origin, fields, rfl⟩ := table_of_is_table (table v found)
      have within := (keyed_table_iff origin fields).1 (keyed.values _ (mem_of_lookup found))
      refine (reads within origin a).trans (and_congr_left fun _ => ⟨fun readable v same => ?_, ?_⟩)
      · cases same
        exact readable
      · exact fun each => each _ rfl

theorem config_iff (keyed : Keyed entries) (tabular : Tabular entries) (config : Config) :
    Config.read? Toml.format (.table .header entries) = some config ↔
      areEntriesReadable entries = true ∧ Describes entries config := by
  have bare_client : ClientOptions.read? Toml.format (.table .header []) = some .default := rfl
  have bare_watch : WatchConfig.read? Toml.format (.table .header []) = some .default := rfl
  have bare_logging : LoggingConfig.read? Toml.format (.table .header []) = some .default := rfl
  refine (record_iff keyed ["client", "watch", "logging"] .header (fun config =>
    (∀ name ∈ ["client", "watch", "logging"], ∀ v, entries.lookup name = some v →
      v.isReadable = true) ∧ Describes entries config) (fun config => ?_)
    (fun _ described => described.1) config).trans (and_congr_right fun readable => ?_)
  · simp only [Option.bind_eq_bind, Option.bind_eq_some_iff, Option.pure_def, Option.some_inj,
      section_iff keyed client_iff bare_client (tabular "client" (by simp)),
      section_iff keyed watch_iff bare_watch (tabular "watch" (by simp)),
      section_iff keyed logging_iff bare_logging (tabular "logging" (by simp)),
      List.forall_mem_cons, List.not_mem_nil, false_implies, implies_true, and_true]
    constructor
    · rintro ⟨_, ⟨one, client⟩, _, ⟨two, watch⟩, _, ⟨three, logging⟩, rfl⟩
      exact ⟨⟨one, two, three⟩, client, watch, logging⟩
    · rintro ⟨⟨one, two, three⟩, client, watch, logging⟩
      exact ⟨_, ⟨one, client⟩, _, ⟨two, watch⟩, _, ⟨three, logging⟩, rfl⟩
  · refine and_iff_right fun name _ v found => ?_
    exact readable_iff.1 readable _ (mem_of_lookup found)

end

section

variable {config : Config}

theorem whole_seconds {given : Option Value} {d : Duration}
    (sets : Sets given IsSeconds ClientOptions.default.interval d) :
    ∃ n, d.nanos = n * 10 ^ 9 := by
  cases given with
  | none =>
      rw [Sets] at sets
      exact ⟨10, by rw [sets]; rfl⟩
  | some v =>
      obtain ⟨n, _, nanos⟩ := sets
      exact ⟨n.toNat, nanos⟩

theorem interval_iff {d : Duration} {n : Nat} (whole : d.nanos = n * 10 ^ 9) :
    ¬ (d.isZero = true ∨ maxWaitTime < d) ↔ 1 ≤ d.secs ∧ d.secs ≤ 600 := by
  have zero : d.isZero = true ↔ d.nanos = 0 := beq_iff_eq
  have longest : maxWaitTime < d ↔ 600 * 10 ^ 9 < d.nanos := Iff.rfl
  rw [zero, longest, Duration.secs]
  omega

theorem positive_iff (n : UInt64) : n ≠ 0 ↔ 1 ≤ n.toNat := by
  rw [Nat.one_le_iff_ne_zero, ← UInt64.toNat_zero, Ne, Ne, UInt64.toNat_inj]

theorem validate_iff (whole : ∃ n, config.client.interval.nanos = n * 10 ^ 9) :
    config.validate = .ok () ↔ InBounds config := by
  obtain ⟨n, whole⟩ := whole
  have ordered : ¬ config.watch.backoffMaxMs < config.watch.backoffBaseMs ↔
      config.watch.backoffBaseMs.toNat ≤ config.watch.backoffMaxMs.toNat := Nat.not_lt
  rw [validate_ok_iff, interval_iff whole, positive_iff, not_or, ← Ne, positive_iff, ordered]
  constructor
  · rintro ⟨⟨positive, short⟩, pool, base, ordered⟩
    exact ⟨positive, short, pool, base, ordered⟩
  · rintro ⟨positive, short, pool, base, ordered⟩
    exact ⟨⟨positive, short⟩, pool, base, ordered⟩

theorem validate_code {failure : Failure} (refused : config.validate = .error failure) :
    failure.code = .configurationError := by
  unfold validate at refused
  split at refused
  · cases refused
    rfl
  · split at refused
    · cases refused
      rfl
    · split at refused
      · cases refused
        rfl
      · cases refused

theorem ofToml_code {text : String} {failure : Failure} (refused : ofToml text = .error failure) :
    failure.code = .configurationError := by
  unfold ofToml at refused
  split at refused
  · cases refused
    rfl
  · rename_i config _
    cases valid : config.validate with
    | error other =>
        rw [valid] at refused
        cases refused
        exact validate_code valid
    | ok =>
        rw [valid] at refused
        cases refused

theorem client_of_valid (valid : config.validate = .ok ()) (target : Target) :
    ∃ client, (ResolverBuilder.ofConfig config).client target = .ok client ∧
      client.waitTime = config.client.interval := by
  obtain ⟨positive, short⟩ := not_or.1 ((validate_ok_iff config).1 valid).1
  have most : config.client.interval.nanos ≤ maxWaitTime.nanos := Nat.le_of_not_lt short
  refine ⟨_, (if_neg (Url.address_ne_empty target)).trans (if_neg positive), if_pos most⟩

end

section

variable {text : String} (tabular : ∀ entries ∈ document? text, Tabular entries)

include tabular

theorem read_iff (config : Config) :
    (parse? text).bind (Config.read? Toml.format) = some config ↔
      ∃ entries, Reads text entries ∧ Describes entries config := by
  constructor
  · intro read
    obtain ⟨v, parsed, read⟩ := Option.bind_eq_some_iff.1 read
    obtain ⟨entries, rfl, keyed⟩ := parse_keyed text v parsed
    have written := (document_iff text entries).2 parsed
    obtain ⟨readable, described⟩ := (config_iff keyed (tabular entries written) config).1 read
    exact ⟨entries, ⟨written, readable⟩, described⟩
  · rintro ⟨entries, ⟨written, readable⟩, described⟩
    have parsed := (document_iff text entries).1 written
    obtain ⟨_, same, keyed⟩ := parse_keyed text _ parsed
    cases same
    rw [parsed]
    exact (config_iff keyed (tabular entries written) config).2 ⟨readable, described⟩

theorem accepted_iff (config : Config) :
    ofToml text = .ok config ↔
      ∃ entries, Reads text entries ∧ Describes entries config ∧ InBounds config := by
  rw [ofToml_ok_iff, read_iff tabular]
  constructor
  · rintro ⟨⟨entries, reads, described⟩, valid⟩
    have whole := whole_seconds described.client.interval
    exact ⟨entries, reads, described, (validate_iff whole).1 valid⟩
  · rintro ⟨entries, reads, described, bounds⟩
    have whole := whole_seconds described.client.interval
    exact ⟨⟨entries, reads, described⟩, (validate_iff whole).2 bounds⟩

end

theorem describes_congr {entries other : Entries} (alike : ∀ field ∈ recognised,
    given entries field.1 field.2 = given other field.1 field.2) {config : Config}
    (described : Describes entries config) : Describes other config := by
  simp only [recognised, List.forall_mem_cons, List.not_mem_nil, false_implies, implies_true,
    and_true] at alike
  obtain ⟨interval, pool, token, passing, tagged, base, most, timeout, level, format⟩ := alike
  refine ⟨⟨?_, ?_, ?_⟩, ⟨?_, ?_, ?_, ?_, ?_⟩, ?_, ?_⟩
  · exact interval ▸ described.client.interval
  · exact pool ▸ described.client.poolSize
  · exact token ▸ described.client.authPass
  · exact passing ▸ described.watch.passingOnly
  · exact tagged ▸ described.watch.filterByServiceTag
  · exact base ▸ described.watch.backoffBaseMs
  · exact most ▸ described.watch.backoffMaxMs
  · exact timeout ▸ described.watch.requestTimeoutMs
  · exact level ▸ described.logging.level
  · exact format ▸ described.logging.format

/-- A text whose sections are tables is accepted as the configuration that it describes, if it is a
document with values of the right kinds and within bounds once the defaults are filled in; any
other is refused as a configuration error. Keys that are not recognised change nothing. From what
is accepted a client can be made for every target, and it waits as long as the interval says. -/
theorem accepted_documents (text : String) (tabular : ∀ entries ∈ document? text, Tabular entries) :
    (∀ config, ofToml text = .ok config ↔
      ∃ entries, Reads text entries ∧ Describes entries config ∧ InBounds config) ∧
    ((∀ entries config, Reads text entries → Describes entries config → ¬ InBounds config) →
      ∃ failure, ofToml text = .error failure ∧ failure.code = .configurationError) ∧
    (∀ other entries others, Reads text entries → Reads other others → Tabular others →
      (∀ field ∈ recognised, given entries field.1 field.2 = given others field.1 field.2) →
      ∀ config, ofToml text = .ok config ↔ ofToml other = .ok config) ∧
    ∀ config, ofToml text = .ok config → ∀ target, ∃ client,
      (ResolverBuilder.ofConfig config).client target = .ok client ∧
        client.waitTime = config.client.interval := by
  refine ⟨accepted_iff tabular, fun outside => ?_, ?_, fun config accepted target => ?_⟩
  · cases ended : ofToml text with
    | error failure => exact ⟨failure, rfl, ofToml_code ended⟩
    | ok config =>
        obtain ⟨entries, reads, described, bounds⟩ := (accepted_iff tabular config).1 ended
        exact absurd bounds (outside entries config reads described)
  · intro other entries others reads other_reads other_tabular alike config
    have tables : ∀ written ∈ document? other, Tabular written := by
      intro written same
      cases other_reads.parsed.symm.trans same
      exact other_tabular
    rw [accepted_iff tabular, accepted_iff tables]
    constructor
    · rintro ⟨_, own, described, bounds⟩
      cases reads.parsed.symm.trans own.parsed
      exact ⟨others, other_reads, describes_congr alike described, bounds⟩
    · rintro ⟨_, own, described, bounds⟩
      cases other_reads.parsed.symm.trans own.parsed
      have back := fun field known => (alike field known).symm
      exact ⟨entries, reads, describes_congr back described, bounds⟩
  · exact client_of_valid ((ofToml_ok_iff text config).1 accepted).2 target

theorem partial_documents :
    let lone := "[client]\ninterval_secs = 600\nzzz = 1\n"
    let clash := "[watch]\nbackoff_base_ms = 40000\n"
    let config : Config := ⟨⟨.ofSecs 600, 4, none⟩, .default, .default⟩
    ofToml lone = .ok config ∧
    (∀ target, ∃ client, (ResolverBuilder.ofConfig config).client target = .ok client ∧
      client.waitTime = .ofSecs 600) ∧
    ∃ failure, ofToml clash = .error failure ∧ failure.code = .configurationError := by
  intro lone clash config
  have accepted : ofToml lone = .ok config := by
    rw [ofToml_ok_iff, validate_ok_iff]
    exact ⟨by decide +kernel, by decide⟩
  obtain ⟨_, _, _, made⟩ := accepted_documents lone (by decide +kernel)
  obtain ⟨_, refused, _⟩ := accepted_documents clash (by decide +kernel)
  refine ⟨accepted, made config accepted, refused fun entries config reads described bounds => ?_⟩
  have values : ((document? clash).map fun entries =>
      ((given entries "watch" "backoff_base_ms").bind uint64?,
        (given entries "watch" "backoff_max_ms").isNone)) = some (some 40000, true) := by
    decide +kernel
  rw [reads.parsed] at values
  obtain ⟨base, missing⟩ := Prod.mk.inj (Option.some.inj values)
  obtain ⟨v, found, forty⟩ := Option.bind_eq_some_iff.1 base
  obtain ⟨_, _, first, longest, _⟩ := described.watch
  rw [found] at first
  rw [Option.isNone_iff_eq_none.1 missing] at longest
  have first : config.watch.backoffBaseMs = 40000 :=
    Option.some.inj (((number_iff _).2 first).symm.trans forty)
  have longest : config.watch.backoffMaxMs = 30000 := longest
  have ordered := bounds.backoff_le
  rw [first, longest] at ordered
  exact absurd ordered (by decide)

end ServiceDiscovery.Config
