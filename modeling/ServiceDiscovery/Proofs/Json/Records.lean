import ServiceDiscovery.Proofs.Config.Acceptance
import ServiceDiscovery.Proofs.Json.RoundTrip
import ServiceDiscovery.Records

namespace ServiceDiscovery.Json

structure Codec (write : α → Json) (read? : Json → Option α) : Prop where
  plain : ∀ a, Plain (write a)
  reads : ∀ a, read? (write a) = some a

theorem below_read {bound n : Nat} (fits : n < bound) : (number n).below? bound = some n :=
  if_pos fits

theorem bind_read {first : Option α} {next : α → Option β} {a : α} {b : β} (read : first = some a)
    (rest : next a = some b) : (first >>= next) = some b := by
  rw [read]
  exact rest

theorem codec_text : Codec .string text? := ⟨.string, fun _ => rfl⟩

theorem codec_uint16 : Codec (fun n : UInt16 => .number n.toNat) uint16? where
  plain n := .number n.toNat
  reads n := by rw [uint16?, below_read n.toNat_lt, Option.map_some, UInt16.ofNat_toNat]

theorem codec_named {name : α → String} {ofName? : String → Option α}
    (known : ∀ a, ofName? (name a) = some a) :
    Codec (fun a => .string (name a)) (named? ofName?) :=
  ⟨fun a => .string (name a), known⟩

section

variable {write : α → Json} {read? : Json → Option α} (codec : Codec write read?)

include codec

theorem codec_list : Codec (fun list => .array (list.map write)) (list? read?) where
  plain list := by
    refine .array _ fun item inside => ?_
    obtain ⟨a, _, rfl⟩ := List.mem_map.1 inside
    exact codec.plain a
  reads list := by
    induction list with
    | nil => rfl
    | cons a rest ih =>
        rw [list?] at ih ⊢
        rw [List.map_cons, List.mapM_cons, codec.reads, ih]
        rfl

theorem text_read (a : α) : readJson read? (write a).text = .ok a := by
  rw [readJson_ok_iff, parse_text _ (codec.plain a), Option.bind_some, codec.reads]

end

theorem fields_object (names : List String) (members : List (String × Json))
    (distinct : (members.map Prod.fst).Nodup) :
    (object members).fields? names = some fun name => members.lookup name :=
  Fields.ofMembers?_of_distinct names members distinct

section

variable {read? : Json → Option α} {members : List (String × Json)} {name : String} {v : Json}
  {a default : α} (there : members.lookup name = some v) (read : read? v = some a)

include there read

theorem required_read : Fields.required (fun name => members.lookup name) name read? = some a := by
  rw [Fields.required, there]
  exact read

theorem defaulted_read :
    Fields.defaulted (fun name => members.lookup name) name default read? = some a := by
  rw [Fields.defaulted, there]
  exact read

end

theorem codec_duration : Codec ofDuration duration? where
  plain d := .object _ (by simp [Plain.number])
  reads d := by
    have secs := below_read d.secs_lt
    have nanos : (number d.subsecNanos).below? (2 ^ 32) = some d.subsecNanos :=
      below_read (Nat.lt_trans (Nat.mod_lt _ (by decide)) (by decide))
    have fields : (ofDuration d).onlyFields? ["secs", "nanos"] = some fun name =>
        [("secs", number d.secs), ("nanos", number d.subsecNanos)].lookup name := by
      rw [ofDuration, onlyFields?, if_pos (by simp), Fields.ofMembers?_of_distinct _ _ (by simp)]
    refine bind_read fields ?_
    refine bind_read (required_read rfl secs) ?_
    refine bind_read (required_read rfl nanos) ?_
    exact Duration.ofParts?_secs_subsecNanos d

theorem codec_status : Codec CheckStatus.json CheckStatus.ofJson? :=
  codec_named CheckStatus.ofName?_name

theorem codec_kind : Codec CheckKind.json CheckKind.ofJson? := codec_named CheckKind.ofName?_name

theorem codec_tags : Codec tagsJson (list? text?) := codec_list codec_text

theorem codec_address : Codec NetworkAddress.json NetworkAddress.ofJson? where
  plain address := .object _ (by simp [codec_text.plain, codec_uint16.plain])
  reads address := by
    rw [NetworkAddress.ofJson?, NetworkAddress.json]
    refine bind_read (fields_object _ _ (by simp)) ?_
    refine bind_read (required_read rfl (codec_text.reads _)) ?_
    exact bind_read (required_read rfl (codec_uint16.reads _)) rfl

theorem codec_entry : Codec ServiceEntry.json ServiceEntry.ofJson? where
  plain entry := .object _ (by
    simp [codec_text.plain, codec_uint16.plain, codec_tags.plain, codec_status.plain])
  reads entry := by
    rw [ServiceEntry.ofJson?, ServiceEntry.json]
    refine bind_read (fields_object _ _ (by simp)) ?_
    refine bind_read (required_read rfl (codec_text.reads _)) ?_
    refine bind_read (required_read rfl (codec_text.reads _)) ?_
    refine bind_read (required_read rfl (codec_text.reads _)) ?_
    refine bind_read (required_read rfl (codec_text.reads _)) ?_
    refine bind_read (required_read rfl (codec_uint16.reads _)) ?_
    refine bind_read (required_read rfl (codec_tags.reads _)) ?_
    exact bind_read (required_read rfl (codec_status.reads _)) rfl

theorem codec_check : Codec HealthCheck.json HealthCheck.ofJson? where
  plain check := .object _ (by simp [codec_text.plain, codec_kind.plain, codec_duration.plain])
  reads check := by
    rw [HealthCheck.ofJson?, HealthCheck.json]
    refine bind_read (fields_object _ _ (by simp)) ?_
    refine bind_read (required_read rfl (codec_kind.reads _)) ?_
    refine bind_read (required_read rfl (codec_duration.reads _)) ?_
    exact bind_read (required_read rfl (codec_text.reads _)) rfl

theorem codec_descriptor : Codec InstanceDescriptor.json InstanceDescriptor.ofJson? where
  plain d := .object _ (by
    simp [codec_text.plain, codec_uint16.plain, codec_tags.plain, codec_duration.plain])
  reads d := by
    rw [InstanceDescriptor.ofJson?, InstanceDescriptor.json]
    refine bind_read (fields_object _ _ (by simp)) ?_
    refine bind_read (required_read rfl (codec_text.reads _)) ?_
    refine bind_read (required_read rfl (codec_text.reads _)) ?_
    refine bind_read (required_read rfl (codec_uint16.reads _)) ?_
    refine bind_read (required_read rfl (codec_tags.reads _)) ?_
    exact bind_read (required_read rfl (codec_duration.reads _)) rfl

theorem codec_registration : Codec Registration.json Registration.ofJson? where
  plain r := .object _ (by
    simp [codec_text.plain, codec_uint16.plain, codec_tags.plain, codec_check.plain])
  reads r := by
    rw [Registration.ofJson?, Registration.json]
    refine bind_read (fields_object _ _ (by simp)) ?_
    refine bind_read (required_read rfl (codec_text.reads _)) ?_
    refine bind_read (required_read rfl (codec_text.reads _)) ?_
    refine bind_read (required_read rfl (codec_text.reads _)) ?_
    refine bind_read (required_read rfl (codec_uint16.reads _)) ?_
    refine bind_read (required_read rfl (codec_tags.reads _)) ?_
    exact bind_read (required_read rfl (codec_check.reads _)) rfl

-- What a value gives for one field of a record: a member of that name, or the item in its place.
def field? (names : List String) (name : String) : Json → Option Json
  | .object members => members.lookup name
  | .array items => (names.zip items).lookup name
  | _ => none

theorem fields_shown {names : List String} {j : Json} {fields : Fields Json}
    (read : j.fields? names = some fields) (name : String) : fields name = j.field? names name := by
  cases j with
  | object members =>
      rw [fields?, Fields.ofMembers?] at read
      split at read
      · cases read
        rfl
      · cases read
  | array items =>
      rw [fields?] at read
      split at read
      · cases read
        rfl
      · cases read
  | _ => cases read

-- A form to which there is no other: what is read was written just so.
def Exact (write : α → Json) (read? : Json → Option α) : Prop :=
  ∀ v a, read? v = some a → write a = v

theorem exact_bool : Exact .bool format.bool? := by
  intro v b read
  cases v with
  | bool _ =>
      cases read
      rfl
  | _ => cases read

theorem exact_text : Exact .string format.text? := by
  intro v s read
  cases v with
  | string _ =>
      cases read
      rfl
  | _ => cases read

theorem exact_token : Exact (fun token => token.elim .null .string) format.optionalText? := by
  intro v token read
  cases v with
  | null =>
      cases read
      rfl
  | string s =>
      cases read
      rfl
  | _ => cases read

theorem exact_uint64 : Exact (fun n : UInt64 => .number n.toNat) format.uint64? := by
  intro v n read
  obtain ⟨k, fits, rfl⟩ := Option.map_eq_some_iff.1 read
  cases v with
  | number m =>
      rw [below?] at fits
      split at fits
      · rename_i small
        cases fits
        exact congrArg number (UInt64.toNat_ofNat_of_lt' small)
      · cases fits
  | _ => cases fits

theorem secs_of_secs (n : UInt64) : (Duration.ofSecs n).secs = n.toNat :=
  Nat.mul_div_cancel _ (by decide)

theorem exact_seconds :
    Exact (fun d => .number d.secs) fun v => (format.uint64? v).map Duration.ofSecs := by
  intro v d read
  obtain ⟨n, seconds, rfl⟩ := Option.map_eq_some_iff.1 read
  exact (congrArg number (secs_of_secs n)).trans (exact_uint64 v n seconds)

section

variable {write : α → Json} {read? : Json → Option α} {fields : Fields Json} {name : String}
  {default a : α}

theorem defaulted_all {p : α → Prop} (standard : p default) (each : ∀ v a, read? v = some a → p a)
    (read : fields.defaulted name default read? = some a) : p a := by
  unfold Fields.defaulted at read
  split at read
  · cases read
    exact standard
  · exact each _ a read

theorem defaulted_exact (exact : Exact write read?)
    (standard : read? (write default) = some default)
    (read : fields.defaulted name default read? = some a) :
    read? (write a) = some a ∧ write a = (fields name).getD (write default) := by
  unfold Fields.defaulted at read
  cases given : fields name with
  | none =>
      rw [given] at read
      cases read
      exact ⟨standard, rfl⟩
  | some v =>
      rw [given] at read
      have same := exact v a read
      exact ⟨same ▸ read, same⟩

end

-- A record written out in full: for each field what was given, or its default.
def Completes (names : List String) (default given written : Json) : Prop :=
  ∀ name ∈ names,
    written.field? names name = (given.field? names name).or (default.field? names name)

theorem format_fields (names : List String) (members : List (String × Json))
    (distinct : (members.map Prod.fst).Nodup) :
    format.fields? names (object members) = some fun name => members.lookup name :=
  fields_object names members distinct

theorem client_completed (v : Json) (options : ClientOptions)
    (read : ClientOptions.read? format v = some options) :
    ClientOptions.read? format options.json = some options ∧
      Completes ["interval_secs", "pool_size", "auth_pass"] ClientOptions.default.json v
        options.json := by
  simp only [ClientOptions.read?, Option.bind_eq_bind, Option.bind_eq_some_iff, Option.pure_def,
    Option.some_inj] at read
  obtain ⟨fields, shown, interval, first, pool, second, token, third, rfl⟩ := read
  obtain ⟨interval_read, interval_kept⟩ := defaulted_exact exact_seconds (by decide) first
  obtain ⟨pool_read, pool_kept⟩ := defaulted_exact exact_uint64 (by decide) second
  obtain ⟨token_read, token_kept⟩ := defaulted_exact exact_token (by decide) third
  constructor
  · rw [ClientOptions.read?, ClientOptions.json]
    refine bind_read (format_fields _ _ (by simp)) ?_
    refine bind_read (defaulted_read rfl interval_read) ?_
    refine bind_read (defaulted_read rfl pool_read) ?_
    exact bind_read (defaulted_read rfl token_read) rfl
  · simp only [Completes, List.forall_mem_cons, ← fields_shown shown]
    simp [ClientOptions.json, field?, List.lookup_cons, interval_kept, pool_kept, token_kept]

theorem watch_completed (v : Json) (watch : WatchConfig)
    (read : WatchConfig.read? format v = some watch) :
    WatchConfig.read? format watch.json = some watch ∧
      Completes ["passing_only", "filter_by_service_tag", "backoff_base_ms", "backoff_max_ms",
        "request_timeout_ms"] WatchConfig.default.json v watch.json := by
  simp only [WatchConfig.read?, Option.bind_eq_bind, Option.bind_eq_some_iff, Option.pure_def,
    Option.some_inj] at read
  obtain ⟨fields, shown, passing, first, tagged, second, base, third, longest, fourth, timeout,
    fifth, rfl⟩ := read
  obtain ⟨passing_read, passing_kept⟩ := defaulted_exact exact_bool (by decide) first
  obtain ⟨tagged_read, tagged_kept⟩ := defaulted_exact exact_bool (by decide) second
  obtain ⟨base_read, base_kept⟩ := defaulted_exact exact_uint64 (by decide) third
  obtain ⟨longest_read, longest_kept⟩ := defaulted_exact exact_uint64 (by decide) fourth
  obtain ⟨timeout_read, timeout_kept⟩ := defaulted_exact exact_uint64 (by decide) fifth
  constructor
  · rw [WatchConfig.read?, WatchConfig.json]
    refine bind_read (format_fields _ _ (by simp)) ?_
    refine bind_read (defaulted_read rfl passing_read) ?_
    refine bind_read (defaulted_read rfl tagged_read) ?_
    refine bind_read (defaulted_read rfl base_read) ?_
    refine bind_read (defaulted_read rfl longest_read) ?_
    exact bind_read (defaulted_read rfl timeout_read) rfl
  · simp only [Completes, List.forall_mem_cons, ← fields_shown shown]
    simp [WatchConfig.json, field?, List.lookup_cons, passing_kept, tagged_kept, base_kept,
      longest_kept, timeout_kept]

theorem logging_completed (v : Json) (logging : LoggingConfig)
    (read : LoggingConfig.read? format v = some logging) :
    LoggingConfig.read? format logging.json = some logging ∧
      Completes ["level", "format"] LoggingConfig.default.json v logging.json := by
  simp only [LoggingConfig.read?, Option.bind_eq_bind, Option.bind_eq_some_iff, Option.pure_def,
    Option.some_inj] at read
  obtain ⟨fields, shown, level, first, style, second, rfl⟩ := read
  obtain ⟨level_read, level_kept⟩ := defaulted_exact exact_text (by decide) first
  obtain ⟨style_read, style_kept⟩ := defaulted_exact exact_text (by decide) second
  constructor
  · rw [LoggingConfig.read?, LoggingConfig.json]
    refine bind_read (format_fields _ _ (by simp)) ?_
    refine bind_read (defaulted_read rfl level_read) ?_
    exact bind_read (defaulted_read rfl style_read) rfl
  · simp only [Completes, List.forall_mem_cons, ← fields_shown shown]
    simp [LoggingConfig.json, field?, List.lookup_cons, level_kept, style_kept]

section

variable {write : α → Json} {read? : Json → Option α} {names : List String}
  {fields : Fields Json} {name : String} {default a : α}

theorem section_completed
    (completed : ∀ v a, read? v = some a →
      read? (write a) = some a ∧ Completes names (write default) v (write a))
    (bare : read? (.object []) = some default)
    (read : fields.defaulted name default read? = some a) :
    read? (write a) = some a ∧ ∀ key ∈ names,
      (write a).field? names key =
        ((fields name).bind (field? names key)).or ((write default).field? names key) := by
  unfold Fields.defaulted at read
  cases given : fields name with
  | none =>
      rw [given] at read
      cases read
      exact ⟨(completed _ _ bare).1, fun _ _ => rfl⟩
  | some v =>
      rw [given] at read
      exact completed v a read

end

def sectionKeys (name : String) : List String :=
  (Config.recognised.filter (·.1 == name)).map Prod.snd

def given (j : Json) (name key : String) : Option Json :=
  (j.field? ["client", "watch", "logging"] name).bind (field? (sectionKeys name) key)

theorem section_keys :
    sectionKeys "client" = ["interval_secs", "pool_size", "auth_pass"] ∧
    sectionKeys "watch" = ["passing_only", "filter_by_service_tag", "backoff_base_ms",
      "backoff_max_ms", "request_timeout_ms"] ∧
    sectionKeys "logging" = ["level", "format"] := by decide

theorem given_json (config : Config) (key : String) :
    given config.json "client" key = field? (sectionKeys "client") key config.client.json ∧
    given config.json "watch" key = field? (sectionKeys "watch") key config.watch.json ∧
    given config.json "logging" key = field? (sectionKeys "logging") key config.logging.json := by
  simp [given, Config.json, field?, List.lookup_cons]

theorem config_completed (v : Json) (config : Config)
    (read : Config.read? format v = some config) :
    Config.read? format config.json = some config ∧ ∀ field ∈ Config.recognised,
      given config.json field.1 field.2 =
        (given v field.1 field.2).or (given Config.default.json field.1 field.2) := by
  simp only [Config.read?, Option.bind_eq_bind, Option.bind_eq_some_iff, Option.pure_def,
    Option.some_inj] at read
  obtain ⟨fields, shown, client, first, watch, second, logging, third, rfl⟩ := read
  obtain ⟨client_read, client_kept⟩ := section_completed client_completed rfl first
  obtain ⟨watch_read, watch_kept⟩ := section_completed watch_completed rfl second
  obtain ⟨logging_read, logging_kept⟩ := section_completed logging_completed rfl third
  constructor
  · rw [Config.read?, Config.json]
    refine bind_read (format_fields _ _ (by simp)) ?_
    refine bind_read (defaulted_read rfl client_read) ?_
    refine bind_read (defaulted_read rfl watch_read) ?_
    exact bind_read (defaulted_read rfl logging_read) rfl
  · obtain ⟨client_keys, watch_keys, logging_keys⟩ := section_keys
    rw [fields_shown shown, ← client_keys] at client_kept
    rw [fields_shown shown, ← watch_keys] at watch_kept
    rw [fields_shown shown, ← logging_keys] at logging_kept
    simp only [Config.recognised, List.forall_mem_cons, List.not_mem_nil, false_implies,
      implies_true, and_true, given_json]
    refine ⟨client_kept _ ?_, client_kept _ ?_, client_kept _ ?_, watch_kept _ ?_, watch_kept _ ?_,
      watch_kept _ ?_, watch_kept _ ?_, watch_kept _ ?_, logging_kept _ ?_, logging_kept _ ?_⟩ <;>
      simp [client_keys, watch_keys, logging_keys]

theorem plain_config (config : Config) : Plain config.json := by
  have client : Plain config.client.json := by
    refine .object _ ?_
    cases config.client.authPass with
    | none => simp [Plain.number, Plain.null]
    | some token => simp [Plain.number, Plain.string]
  have watch : Plain config.watch.json := .object _ (by simp [Plain.bool, Plain.number])
  have logging : Plain config.logging.json := .object _ (by simp [Plain.string])
  exact .object _ (by simp [client, watch, logging])

theorem whole_seconds_read (v : Json) (config : Config)
    (read : Config.read? format v = some config) :
    ∃ n : UInt64, config.client.interval = .ofSecs n := by
  simp only [Config.read?, Option.bind_eq_bind, Option.bind_eq_some_iff, Option.pure_def,
    Option.some_inj] at read
  obtain ⟨_, _, client, section_read, _, _, _, _, rfl⟩ := read
  refine defaulted_all (p := fun options => ∃ n, options.interval = .ofSecs n) ⟨10, rfl⟩
    (fun v options read => ?_) section_read
  simp only [ClientOptions.read?, Option.bind_eq_bind, Option.bind_eq_some_iff, Option.pure_def,
    Option.some_inj] at read
  obtain ⟨_, _, interval, interval_read, _, _, _, _, rfl⟩ := read
  refine defaulted_all (p := fun d => ∃ n, d = .ofSecs n) ⟨10, rfl⟩ (fun v d read => ?_)
    interval_read
  obtain ⟨n, _, rfl⟩ := Option.map_eq_some_iff.1 read
  exact ⟨n, rfl⟩

/-- A record reads from its compact text as the record that was written. What was read as a
configuration is written in full: for each field the value that was given or else the default, the
interval in whole seconds. From that text the same configuration is read. -/
theorem records_survive_writing :
    (∀ address : NetworkAddress, readJson NetworkAddress.ofJson? address.json.text = .ok address) ∧
    (∀ entry : ServiceEntry, readJson ServiceEntry.ofJson? entry.json.text = .ok entry) ∧
    (∀ check : HealthCheck, readJson HealthCheck.ofJson? check.json.text = .ok check) ∧
    (∀ d : InstanceDescriptor, readJson InstanceDescriptor.ofJson? d.json.text = .ok d) ∧
    (∀ r : Registration, readJson Registration.ofJson? r.json.text = .ok r) ∧
    ∀ text config, readJson (Config.read? format) text = .ok config →
      readJson (Config.read? format) config.json.text = .ok config ∧
      ∃ said written, parse? text = some said ∧ parse? config.json.text = some written ∧
        (∀ field ∈ Config.recognised, given written field.1 field.2 =
          (given said field.1 field.2).or (given Config.default.json field.1 field.2)) ∧
        ∃ n : UInt64, config.client.interval = .ofSecs n ∧
          given written "client" "interval_secs" = some (.number n.toNat) := by
  refine ⟨text_read codec_address, text_read codec_entry, text_read codec_check,
    text_read codec_descriptor, text_read codec_registration, fun text config read => ?_⟩
  obtain ⟨said, parsed, read⟩ := Option.bind_eq_some_iff.1 ((readJson_ok_iff _ _ _).1 read)
  have parsed_again := parse_text config.json (plain_config config)
  obtain ⟨read_again, completed⟩ := config_completed said config read
  obtain ⟨n, whole⟩ := whole_seconds_read said config read
  refine ⟨?_, said, config.json, parsed, parsed_again, completed, n, whole, ?_⟩
  · rw [readJson_ok_iff, parsed_again, Option.bind_some, read_again]
  · rw [(given_json config _).1, section_keys.1, ← secs_of_secs, ← whole]
    rfl

theorem short_configuration_survives_writing :
    let text := "\x7b\"client\":[7],\"logging\":\x7b\"level\":\"\\u0007\",\"zzz\":[]\x7d\x7d"
    let config : Config := ⟨⟨.ofSecs 7, 4, none⟩, .default, ⟨"\x07", "compact"⟩⟩
    readJson (Config.read? format) text = .ok config ∧
    readJson (Config.read? format) config.json.text = .ok config ∧
    ∃ written, parse? config.json.text = some written ∧
      given written "client" "interval_secs" = some (.number 7) := by
  intro text config
  have read : readJson (Config.read? format) text = .ok config := by
    rw [readJson_ok_iff]
    decide +kernel
  obtain ⟨again, _, written, _, parsed, _, n, whole, seconds⟩ :=
    records_survive_writing.2.2.2.2.2 text config read
  have seven : (7 : UInt64).toNat = n.toNat := by
    rw [← secs_of_secs, ← secs_of_secs, ← whole]
  rw [← seven] at seconds
  exact ⟨read, again, written, parsed, seconds⟩

end ServiceDiscovery.Json
