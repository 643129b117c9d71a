import ServiceDiscovery.Failure
import ServiceDiscovery.Json.Record
import ServiceDiscovery.Toml.Parser

namespace ServiceDiscovery

structure ClientOptions where
  interval : Duration
  poolSize : UInt64
  authPass : Option String
deriving DecidableEq

structure WatchConfig where
  passingOnly : Bool
  filterByServiceTag : Bool
  backoffBaseMs : UInt64
  backoffMaxMs : UInt64
  requestTimeoutMs : UInt64
deriving DecidableEq

structure LoggingConfig where
  level : String
  format : String
deriving DecidableEq

structure Config where
  client : ClientOptions
  watch : WatchConfig
  logging : LoggingConfig
deriving DecidableEq

def maxWaitTime : Duration := .ofSecs 600

namespace ClientOptions

def default : ClientOptions := ⟨.ofSecs 10, 4, none⟩

def read? (format : Format V) (v : V) : Option ClientOptions := do
  let fields ← format.fields? ["interval_secs", "pool_size", "auth_pass"] v
  return {
    interval := ← fields.defaulted "interval_secs" default.interval fun v =>
      (format.uint64? v).map Duration.ofSecs
    poolSize := ← fields.defaulted "pool_size" default.poolSize format.uint64?
    authPass := ← fields.defaulted "auth_pass" default.authPass format.optionalText? }

-- The JSON form; the interval's part of a second is left out.
def json (options : ClientOptions) : Json :=
  .object [("interval_secs", .number options.interval.secs),
    ("pool_size", .number options.poolSize.toNat),
    ("auth_pass", options.authPass.elim .null .string)]

end ClientOptions

namespace WatchConfig

def default : WatchConfig := ⟨true, true, 200, 30000, 10000⟩

def read? (format : Format V) (v : V) : Option WatchConfig := do
  let fields ← format.fields? ["passing_only", "filter_by_service_tag", "backoff_base_ms",
    "backoff_max_ms", "request_timeout_ms"] v
  return {
    passingOnly := ← fields.defaulted "passing_only" default.passingOnly format.bool?
    filterByServiceTag := ← fields.defaulted "filter_by_service_tag" default.filterByServiceTag
      format.bool?
    backoffBaseMs := ← fields.defaulted "backoff_base_ms" default.backoffBaseMs format.uint64?
    backoffMaxMs := ← fields.defaulted "backoff_max_ms" default.backoffMaxMs format.uint64?
    requestTimeoutMs := ← fields.defaulted "request_timeout_ms" default.requestTimeoutMs
      format.uint64? }

def json (config : WatchConfig) : Json :=
  .object [("passing_only", .bool config.passingOnly),
    ("filter_by_service_tag", .bool config.filterByServiceTag),
    ("backoff_base_ms", .number config.backoffBaseMs.toNat),
    ("backoff_max_ms", .number config.backoffMaxMs.toNat),
    ("request_timeout_ms", .number config.requestTimeoutMs.toNat)]

def backoffBase (config : WatchConfig) : Duration := .ofMillis config.backoffBaseMs
def backoffMax (config : WatchConfig) : Duration := .ofMillis config.backoffMaxMs
def requestTimeout (config : WatchConfig) : Duration := .ofMillis config.requestTimeoutMs

end WatchConfig

namespace LoggingConfig

def default : LoggingConfig := ⟨"info", "compact"⟩

def read? (format : Format V) (v : V) : Option LoggingConfig := do
  let fields ← format.fields? ["level", "format"] v
  return {
    level := ← fields.defaulted "level" default.level format.text?
    format := ← fields.defaulted "format" default.format format.text? }

def json (config : LoggingConfig) : Json :=
  .object [("level", .string config.level), ("format", .string config.format)]

end LoggingConfig

namespace Config

def default : Config := ⟨.default, .default, .default⟩

def read? (format : Format V) (v : V) : Option Config := do
  let fields ← format.fields? ["client", "watch", "logging"] v
  return {
    client := ← fields.defaulted "client" .default (ClientOptions.read? format)
    watch := ← fields.defaulted "watch" .default (WatchConfig.read? format)
    logging := ← fields.defaulted "logging" .default (LoggingConfig.read? format) }

def json (config : Config) : Json :=
  .object [("client", config.client.json), ("watch", config.watch.json),
    ("logging", config.logging.json)]

def validate (config : Config) : Except Failure Unit :=
  if config.client.interval.isZero ∨ maxWaitTime < config.client.interval then
    .error (.configuration "client.interval_secs must be between 1 and 600")
  else if config.client.poolSize = 0 then
    .error (.configuration "client.pool_size must be positive")
  else if config.watch.backoffBaseMs = 0 ∨
      config.watch.backoffMaxMs < config.watch.backoffBaseMs then
    .error (.configuration
      "watch.backoff_base_ms must be positive and not exceed watch.backoff_max_ms")
  else .ok ()

def unreadable : String := "配置文件解析错误"

def ofToml (text : String) : Except Failure Config := do
  match (Toml.parse? text).bind (Config.read? Toml.format) with
  | none => .error (.ofCause .configurationError unreadable "not a configuration in TOML")
  | some config =>
    config.validate
    return config

theorem validate_ok_iff (config : Config) :
    config.validate = .ok () ↔
      ¬ (config.client.interval.isZero ∨ maxWaitTime < config.client.interval) ∧
      config.client.poolSize ≠ 0 ∧
      ¬ (config.watch.backoffBaseMs = 0 ∨
        config.watch.backoffMaxMs < config.watch.backoffBaseMs) := by
  unfold validate
  split
  · rename_i interval
    exact ⟨fun failed => (by cases failed), fun fine => absurd interval fine.1⟩
  · rename_i interval
    split
    · rename_i pool
      exact ⟨fun failed => (by cases failed), fun fine => absurd pool fine.2.1⟩
    · rename_i pool
      split
      · rename_i backoff
        exact ⟨fun failed => (by cases failed), fun fine => absurd backoff fine.2.2⟩
      · rename_i backoff
        exact ⟨fun _ => ⟨interval, pool, backoff⟩, fun _ => rfl⟩

theorem ofToml_ok_iff (text : String) (config : Config) :
    ofToml text = .ok config ↔
      (Toml.parse? text).bind (read? Toml.format) = some config ∧ config.validate = .ok () := by
  unfold ofToml
  cases (Toml.parse? text).bind (read? Toml.format) with
  | none => exact ⟨fun failed => (by cases failed), fun fine => (by cases fine.1)⟩
  | some found =>
    dsimp only
    cases valid : found.validate with
    | error failure =>
      refine ⟨fun failed => (by cases failed), ?_⟩
      rintro ⟨same, fine⟩
      cases same
      cases valid.symm.trans fine
    | ok =>
      constructor
      · intro same
        cases same
        exact ⟨rfl, valid⟩
      · rintro ⟨same, _⟩
        cases same
        rfl

end Config

end ServiceDiscovery
