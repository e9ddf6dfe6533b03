import TupleClient.Chunk
import TupleClient.Conflict
import TupleClient.Headers
import TupleClient.Number.Power
import TupleClient.Retry

/-!
# Settings of the client

The settings say where the service is and which store is written to, how change sets are cut and
how conflicts are treated, how failures are retried, and what is logged. All of them have defaults,
but a store has to be named before the settings are valid.

## Main definitions

* `Settings` and its four sections — the settings with their defaults
* `Settings.encode`, `Settings.decode` — the settings as data
* `Settings.defect?` — the first thing wrong with settings, and `SettingsError`, what it can be
* `Settings.Valid` — nothing is wrong
-/

namespace TupleClient

/-- Where the service is, and what is written to. -/
structure ConnectionSettings where
  apiUrl : String := "http://localhost:8080"
  storeId : String := ""
  authorizationModelId : Option String := none
  requestTimeoutSecs : Nat := 10
deriving DecidableEq, Inhabited

/-- How change sets are cut, and the policy of calls that bring none. -/
structure WriteSettings where
  maxTuplesPerCall : Nat := 100
  onDuplicateWrites : Directive := .error
  onMissingDeletes : Directive := .error
deriving DecidableEq, Inhabited

/-- How failures are retried. -/
structure RetrySettings where
  maxRetries : Nat := 3
  minWaitMs : Nat := 100
  maxWaitMs : Nat := 5000
deriving DecidableEq, Inhabited

/-- The shape of the log. -/
inductive LogFormat where
  /-- Text for people, over several lines. -/
  | pretty
  /-- One object of data per line. -/
  | json
deriving DecidableEq, Inhabited

/-- What is logged, and in which shape. -/
structure LoggingSettings where
  level : String := "info"
  format : LogFormat := .pretty
deriving DecidableEq, Inhabited

/-- The settings of the client. -/
structure Settings where
  connection : ConnectionSettings := {}
  write : WriteSettings := {}
  retry : RetrySettings := {}
  logging : LoggingSettings := {}
deriving DecidableEq, Inhabited

namespace LogFormat

/-- The name of a shape. -/
def name : LogFormat → String
  | pretty => "pretty"
  | json => "json"

/-- The data of a shape. -/
def encode (f : LogFormat) : Json := .str f.name

/-- The shape of data. -/
def decode : Decoder LogFormat := Decode.variant ("pretty", .pretty) ("json", .json)

end LogFormat

namespace Decode

/-- A whole number of 64 bits. -/
def u64 : Decoder Nat := natural (twoTo 64) "u64"

/-- A whole number of 32 bits. -/
def u32 : Decoder Nat := natural (twoTo 32) "u32"

/-- A size, which is a whole number of 64 bits. -/
def size : Decoder Nat := natural (twoTo 64) "usize"

end Decode

namespace ConnectionSettings

/-- The data of the section. -/
def encode (s : ConnectionSettings) : Json :=
  .obj [("api_url", .str s.apiUrl), ("authorization_model_id", Json.ofText? s.authorizationModelId),
    ("request_timeout_secs", Json.nat s.requestTimeoutSecs), ("store_id", .str s.storeId)]

/-- The section of data. -/
def decode : Decoder ConnectionSettings :=
  Record.decode "ConnectionSettings"
    (((((Record.optional "api_url" Decode.text "http://localhost:8080").map
      ConnectionSettings.mk).seq
      (Record.optional "store_id" Decode.text "")).seq
      (Record.optional "authorization_model_id" (Decode.option Decode.text) none)).seq
      (Record.optional "request_timeout_secs" Decode.u64 10))

end ConnectionSettings

namespace WriteSettings

/-- The data of the section. -/
def encode (s : WriteSettings) : Json :=
  .obj [("max_tuples_per_call", Json.nat s.maxTuplesPerCall),
    ("on_duplicate_writes", s.onDuplicateWrites.encode),
    ("on_missing_deletes", s.onMissingDeletes.encode)]

/-- The section of data. -/
def decode : Decoder WriteSettings :=
  Record.decode "WriteSettings"
    ((((Record.optional "max_tuples_per_call" Decode.size 100).map WriteSettings.mk).seq
      (Record.optional "on_duplicate_writes" Directive.decode .error)).seq
      (Record.optional "on_missing_deletes" Directive.decode .error))

end WriteSettings

namespace RetrySettings

/-- The data of the section. -/
def encode (s : RetrySettings) : Json :=
  .obj [("max_retries", Json.nat s.maxRetries), ("max_wait_ms", Json.nat s.maxWaitMs),
    ("min_wait_ms", Json.nat s.minWaitMs)]

/-- The section of data. -/
def decode : Decoder RetrySettings :=
  Record.decode "RetrySettings"
    ((((Record.optional "max_retries" Decode.u32 3).map RetrySettings.mk).seq
      (Record.optional "min_wait_ms" Decode.u64 100)).seq
      (Record.optional "max_wait_ms" Decode.u64 5000))

end RetrySettings

namespace LoggingSettings

/-- The data of the section. -/
def encode (s : LoggingSettings) : Json :=
  .obj [("format", s.format.encode), ("level", .str s.level)]

/-- The section of data. -/
def decode : Decoder LoggingSettings :=
  Record.decode "LoggingSettings"
    (((Record.optional "level" Decode.text "info").map LoggingSettings.mk).seq
      (Record.optional "format" LogFormat.decode .pretty))

end LoggingSettings

/-- What can be wrong with settings. -/
inductive SettingsError where
  | missingStore
  | badScheme (apiUrl : String)
  | zeroTimeout
  | zeroLimit
  | waitsReversed (minWait maxWait : Nat)
  | unknownLevel (level : String)
  /-- The level is not one that the log can be set to. -/
  | notALevel (level : String)
deriving DecidableEq

namespace Settings

/-- The data of the settings. -/
def encode (s : Settings) : Json :=
  .obj [("connection", s.connection.encode), ("logging", s.logging.encode),
    ("retry", s.retry.encode), ("write", s.write.encode)]

/-- The settings of data. -/
def decode : Decoder Settings :=
  Record.decode "ClientConfig"
    (((((Record.optional "connection" ConnectionSettings.decode {}).map Settings.mk).seq
      (Record.optional "write" WriteSettings.decode {})).seq
      (Record.optional "retry" RetrySettings.decode {})).seq
      (Record.optional "logging" LoggingSettings.decode {}))

/-- The names of the levels that may be set. -/
def levelNames : List String := ["trace", "debug", "info", "warn", "error"]

/-- Whether an address, blanks at its ends aside, names one of the two schemes. -/
def hasWebScheme (apiUrl : String) : Bool :=
  let cs := (Text.trim apiUrl).toList
  "http://".toList.isPrefixOf cs || "https://".toList.isPrefixOf cs

/-- Nothing is wrong with the settings. -/
structure Valid (s : Settings) : Prop where
  store : Text.isBlank s.connection.storeId = false
  scheme : hasWebScheme s.connection.apiUrl = true
  timeout : 0 < s.connection.requestTimeoutSecs
  limit : 0 < s.write.maxTuplesPerCall
  waits : s.retry.minWaitMs ≤ s.retry.maxWaitMs
  level : Text.lower s.logging.level ∈ levelNames

/-- The first thing wrong with settings. No letter beyond ASCII is the capital of a letter in the
name of a level, so that folding ASCII letters is enough. -/
def defect? (s : Settings) : Option SettingsError :=
  if Text.isBlank s.connection.storeId then some .missingStore
  else if !hasWebScheme s.connection.apiUrl then some (.badScheme s.connection.apiUrl)
  else if s.connection.requestTimeoutSecs = 0 then some .zeroTimeout
  else if s.write.maxTuplesPerCall = 0 then some .zeroLimit
  else if s.retry.maxWaitMs < s.retry.minWaitMs then
    some (.waitsReversed s.retry.minWaitMs s.retry.maxWaitMs)
  else if Text.lower s.logging.level ∉ levelNames then some (.unknownLevel s.logging.level)
  else none

/-- Exactly the valid settings have no defect. -/
theorem defect?_eq_none_iff (s : Settings) : s.defect? = none ↔ s.Valid := by
  constructor
  · intro h
    unfold defect? at h
    split at h; · simp at h
    split at h; · simp at h
    split at h; · simp at h
    split at h; · simp at h
    split at h; · simp at h
    split at h; · simp at h
    next h₁ h₂ h₃ h₄ h₅ h₆ =>
    exact ⟨by simpa using h₁, by simpa using h₂, by omega, by omega, by omega,
      Decidable.not_not.mp h₆⟩
  · intro h
    unfold defect?
    rw [if_neg (by simp [h.store]), if_neg (by simp [h.scheme]),
      if_neg (Nat.pos_iff_ne_zero.mp h.timeout), if_neg (Nat.pos_iff_ne_zero.mp h.limit),
      if_neg (by have := h.waits; omega), if_neg (not_not_intro h.level)]

/-- The policy of calls that bring none. -/
def defaultPolicy (s : Settings) : ConflictPolicy :=
  ⟨s.write.onDuplicateWrites, s.write.onMissingDeletes⟩

/-- How failures are retried. -/
def retryPolicy (s : Settings) : RetryPolicy :=
  ⟨s.retry.maxRetries, s.retry.minWaitMs, s.retry.maxWaitMs⟩

end Settings

/-- What is wrong with settings, in words. -/
def SettingsError.message : SettingsError → String
  | missingStore => "connection.store_id is required"
  | badScheme apiUrl =>
    "connection.api_url must start with http:// or https://, got: " ++ apiUrl
  | zeroTimeout => "connection.request_timeout_secs must be greater than 0"
  | zeroLimit => "write.max_tuples_per_call must be greater than 0"
  | waitsReversed minWait maxWait =>
    "retry.min_wait_ms (" ++ toString minWait ++ ") must not exceed retry.max_wait_ms (" ++
      toString maxWait ++ ")"
  | unknownLevel level =>
    "logging.level must be one of: " ++ Text.quotedList Settings.levelNames ++ ", got: " ++ level
  | notALevel level => "logging.level is not a valid level: " ++ level

/-- The text of an error in settings. -/
def SettingsError.fullMessage (e : SettingsError) : String :=
  "invalid configuration: " ++ e.message

end TupleClient
