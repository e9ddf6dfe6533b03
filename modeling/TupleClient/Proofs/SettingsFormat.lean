import TupleClient.Proofs.DataFormats
import TupleClient.Settings.Basic

/-!
# The data format of the settings

The settings are written in full and read back, as long as their numbers are in the range of their
fields. Whatever is read is in this range, so what was read can always be written and read again.
With this all formats of the client are sound.

## Main definitions

* `Record.Yields` — all that a record can be read as has a property
* `Settings.Fits` — the numbers of the settings are in the range of their fields

## Main results

* `Settings.decode_encode`, `Settings.fits_of_decode` — settings that fit, and only they, are read
* `codecs_sound` — what any format writes is read back, and what it reads may vary
-/

namespace TupleClient

open Record

/-! ## What can be read -/

namespace Record

variable {α β : Type} {name : String}

/-- All that a record can be read as has a property. -/
structure Yields (r : Record α) (P : α → Prop) : Prop where
  fields : ∀ {fields : Fields Json} {a : α}, r.Reads fields a → P a
  items : ∀ {expected : String} {position : ℕ} {items left : List Json} {a : α},
    r.fromItems expected position items = .ok (a, left) → P a

theorem Yields.of_forall {r : Record α} {P : α → Prop} (h : ∀ a, P a) : r.Yields P :=
  ⟨fun _ => h _, fun _ => h _⟩

theorem Yields.any (r : Record α) : r.Yields fun _ => True := .of_forall fun _ => trivial

theorem Yields.optional {decoder : Decoder α} {default : α} {P : α → Prop}
    (decoded : ∀ v a, decoder v = .ok a → P a) (otherwise : P default) :
    (Record.optional name decoder default).Yields P where
  fields {fields a} read := by
    obtain ⟨-, found⟩ := reads_fieldOr_iff.mp read
    cases value : Fields.find? name fields with
    | none =>
      rw [value] at found
      exact Except.ok.inj found ▸ otherwise
    | some v =>
      rw [value] at found
      exact decoded v a found
  items {expected position items left a} read := by
    cases items with
    | nil =>
      simp only [Record.optional, fieldOr, Except.map, Except.ok.injEq, Prod.mk.injEq] at read
      exact read.1 ▸ otherwise
    | cons v rest => exact decoded v a (fromItems_fieldOr_cons_iff.mp read).1

theorem Yields.map {r : Record α} {g : α → β} {P : β → Prop} (h : r.Yields fun a => P (g a)) :
    (r.map g).Yields P where
  fields read := by
    obtain ⟨a, argument, rfl⟩ := reads_map_iff.mp read
    exact h.fields argument
  items read := by
    obtain ⟨a, argument, rfl⟩ := fromItems_map_iff.mp read
    exact h.items argument

theorem Yields.seq {f : Record (α → β)} {x : Record α} {P : β → Prop} {Q : α → Prop}
    (hf : f.Yields fun g => ∀ a, Q a → P (g a)) (hx : x.Yields Q) : (f.seq x).Yields P where
  fields read := by
    obtain ⟨g, a, function, argument, rfl⟩ := reads_seq_iff.mp read
    exact hf.fields function a (hx.fields argument)
  items read := by
    obtain ⟨g, rest, a, function, argument, rfl⟩ := fromItems_seq_iff.mp read
    exact hf.items function a (hx.items argument)

theorem Yields.decode {r : Record α} {P : α → Prop} (h : r.Yields P) (v : Json) (a : α)
    (decoded : r.decode name v = .ok a) : P a := by
  cases v with
  | obj fields => exact h.fields (decode_obj_eq_ok_iff.mp decoded)
  | arr items => exact h.items (decode_arr_eq_ok_iff.mp decoded)
  | _ => simp [Record.decode] at decoded

end Record

namespace Decode

variable {bound : ℕ} {name : String}

theorem natural_nat {n : ℕ} (fits : n < bound) : natural bound name (Json.nat n) = .ok n := by
  simp [natural, Json.nat, fits]

theorem lt_of_natural (v : Json) (n : ℕ) (decoded : natural bound name v = .ok n) : n < bound := by
  cases v with
  | int i =>
    simp only [natural] at decoded
    split at decoded
    · next range =>
      obtain rfl := Except.ok.inj decoded
      omega
    · simp at decoded
  | _ => simp [natural] at decoded

theorem text_ofText? (text : Option String) :
    option Decode.text (Json.ofText? text) = .ok text := by
  cases text <;> rfl

end Decode

/-! ## The sections -/

namespace ConnectionSettings

/-- The time-out is in the range of its field. -/
def Fits (s : ConnectionSettings) : Prop := s.requestTimeoutSecs < twoTo 64

/-- The fields of the section. -/
def known : List KnownField :=
  [{ name := "api_url" }, { name := "store_id" }, KnownField.nullable "authorization_model_id",
    { name := "request_timeout_secs" }]

theorem decode_encode {s : ConnectionSettings} (fits : s.Fits) :
    ConnectionSettings.decode s.encode = .ok s := by
  let fields : Fields Json := [("api_url", .str s.apiUrl),
    ("authorization_model_id", Json.ofText? s.authorizationModelId),
    ("request_timeout_secs", Json.nat s.requestTimeoutSecs), ("store_id", .str s.storeId)]
  have apiUrl : (Record.optional "api_url" Decode.text "http://localhost:8080").Reads fields
      s.apiUrl := .fieldOr (v := .str s.apiUrl) rfl (by simp [fields]) (by simp [fields])
  have storeId : (Record.optional "store_id" Decode.text "").Reads fields s.storeId :=
    .fieldOr (v := .str s.storeId) rfl (by simp [fields]) (by simp [fields])
  have model : (Record.optional "authorization_model_id" (Decode.option Decode.text) none).Reads
      fields s.authorizationModelId :=
    .fieldOr (Decode.text_ofText? _) (by simp [fields]) (by simp [fields])
  have timeout : (Record.optional "request_timeout_secs" Decode.u64 10).Reads fields
      s.requestTimeoutSecs :=
    .fieldOr (Decode.natural_nat fits) (by simp [fields]) (by simp [fields])
  exact ((((apiUrl.map ConnectionSettings.mk).seq storeId).seq model).seq timeout).decode_eq _

theorem fits_of_decode (v : Json) (s : ConnectionSettings)
    (decoded : ConnectionSettings.decode v = .ok s) : s.Fits := by
  have timeout : (Record.optional "request_timeout_secs" Decode.u64 10).Yields (· < twoTo 64) :=
    .optional Decode.lt_of_natural (by decide)
  refine Yields.decode (.seq (.seq (.seq (.map ?_) (.any _)) (.any _)) timeout) v s decoded
  exact .of_forall fun apiUrl storeId _ model _ seconds fits => fits

theorem decode_tolerates : ConnectionSettings.decode.Tolerates (Varies known) := by
  have distinct : (known.map KnownField.name).Nodup := by decide
  have apiUrl := Follows.plain "api_url" Decode.text "http://localhost:8080" distinct
    (by simp [known])
  have storeId := Follows.plain "store_id" Decode.text "" distinct (by simp [known])
  have model := Follows.withDefault (KnownField.nullable "authorization_model_id") none
    distinct (by simp [known])
    (Decoder.tolerates_eq (Decode.option Decode.text)) (by rintro v rfl; rfl)
  have timeout := Follows.plain "request_timeout_secs" Decode.u64 10 distinct (by simp [known])
  have all : Follows known known _ :=
    ((((apiUrl.map ConnectionSettings.mk).seq storeId).seq model).seq timeout :)
  exact all.tolerates _

end ConnectionSettings

namespace WriteSettings

/-- The limit is in the range of its field. -/
def Fits (s : WriteSettings) : Prop := s.maxTuplesPerCall < twoTo 64

/-- The fields of the section. -/
def known : List KnownField :=
  [{ name := "max_tuples_per_call" }, KnownField.directive "on_duplicate_writes",
    KnownField.directive "on_missing_deletes"]

theorem decode_encode {s : WriteSettings} (fits : s.Fits) :
    WriteSettings.decode s.encode = .ok s := by
  let fields : Fields Json := [("max_tuples_per_call", Json.nat s.maxTuplesPerCall),
    ("on_duplicate_writes", s.onDuplicateWrites.encode),
    ("on_missing_deletes", s.onMissingDeletes.encode)]
  have limit : (Record.optional "max_tuples_per_call" Decode.size 100).Reads fields
      s.maxTuplesPerCall := .fieldOr (Decode.natural_nat fits) (by simp [fields]) (by simp [fields])
  have onDuplicate : (Record.optional "on_duplicate_writes" Directive.decode .error).Reads fields
      s.onDuplicateWrites :=
    .fieldOr (Directive.decode_encode _) (by simp [fields]) (by simp [fields])
  have onMissing : (Record.optional "on_missing_deletes" Directive.decode .error).Reads fields
      s.onMissingDeletes :=
    .fieldOr (Directive.decode_encode _) (by simp [fields]) (by simp [fields])
  exact (((limit.map WriteSettings.mk).seq onDuplicate).seq onMissing).decode_eq _

theorem fits_of_decode (v : Json) (s : WriteSettings) (decoded : WriteSettings.decode v = .ok s) :
    s.Fits := by
  have limit : (Record.optional "max_tuples_per_call" Decode.size 100).Yields (· < twoTo 64) :=
    .optional Decode.lt_of_natural (by decide)
  refine Yields.decode (.seq (.seq (.map ⟨?_, ?_⟩) (.any _)) (.any _)) v s decoded
  · exact fun read onDuplicate _ onMissing _ => limit.fields read
  · exact fun read onDuplicate _ onMissing _ => limit.items read

theorem decode_tolerates : WriteSettings.decode.Tolerates (Varies known) := by
  have distinct : (known.map KnownField.name).Nodup := by decide
  have limit := Follows.plain "max_tuples_per_call" Decode.size 100 distinct (by simp [known])
  have onDuplicate := Follows.directive "on_duplicate_writes" distinct (by simp [known])
  have onMissing := Follows.directive "on_missing_deletes" distinct (by simp [known])
  have all : Follows known known _ :=
    (((limit.map WriteSettings.mk).seq onDuplicate).seq onMissing :)
  exact all.tolerates _

end WriteSettings

namespace RetrySettings

/-- The numbers of the section are in the ranges of their fields. -/
structure Fits (s : RetrySettings) : Prop where
  maxRetries : s.maxRetries < twoTo 32
  minWaitMs : s.minWaitMs < twoTo 64
  maxWaitMs : s.maxWaitMs < twoTo 64

/-- The fields of the section. -/
def known : List KnownField :=
  [{ name := "max_retries" }, { name := "min_wait_ms" }, { name := "max_wait_ms" }]

theorem decode_encode {s : RetrySettings} (fits : s.Fits) :
    RetrySettings.decode s.encode = .ok s := by
  let fields : Fields Json := [("max_retries", Json.nat s.maxRetries),
    ("max_wait_ms", Json.nat s.maxWaitMs), ("min_wait_ms", Json.nat s.minWaitMs)]
  have maxRetries : (Record.optional "max_retries" Decode.u32 3).Reads fields s.maxRetries :=
    .fieldOr (Decode.natural_nat fits.maxRetries) (by simp [fields]) (by simp [fields])
  have minWait : (Record.optional "min_wait_ms" Decode.u64 100).Reads fields s.minWaitMs :=
    .fieldOr (Decode.natural_nat fits.minWaitMs) (by simp [fields]) (by simp [fields])
  have maxWait : (Record.optional "max_wait_ms" Decode.u64 5000).Reads fields s.maxWaitMs :=
    .fieldOr (Decode.natural_nat fits.maxWaitMs) (by simp [fields]) (by simp [fields])
  exact (((maxRetries.map RetrySettings.mk).seq minWait).seq maxWait).decode_eq _

theorem fits_of_decode (v : Json) (s : RetrySettings) (decoded : RetrySettings.decode v = .ok s) :
    s.Fits := by
  have maxRetries : (Record.optional "max_retries" Decode.u32 3).Yields (· < twoTo 32) :=
    .optional Decode.lt_of_natural (by decide)
  have minWait : (Record.optional "min_wait_ms" Decode.u64 100).Yields (· < twoTo 64) :=
    .optional Decode.lt_of_natural (by decide)
  have maxWait : (Record.optional "max_wait_ms" Decode.u64 5000).Yields (· < twoTo 64) :=
    .optional Decode.lt_of_natural (by decide)
  -- The later fields bring their bounds along. The first is read from an object or an array.
  refine Yields.decode (.seq (.seq (.map ⟨?_, ?_⟩) minWait) maxWait) v s decoded
  · exact fun read minWait minFits maxWait maxFits => ⟨maxRetries.fields read, minFits, maxFits⟩
  · exact fun read minWait minFits maxWait maxFits => ⟨maxRetries.items read, minFits, maxFits⟩

theorem decode_tolerates : RetrySettings.decode.Tolerates (Varies known) := by
  have distinct : (known.map KnownField.name).Nodup := by decide
  have maxRetries := Follows.plain "max_retries" Decode.u32 3 distinct (by simp [known])
  have minWait := Follows.plain "min_wait_ms" Decode.u64 100 distinct (by simp [known])
  have maxWait := Follows.plain "max_wait_ms" Decode.u64 5000 distinct (by simp [known])
  have all : Follows known known _ :=
    (((maxRetries.map RetrySettings.mk).seq minWait).seq maxWait :)
  exact all.tolerates _

end RetrySettings

namespace LoggingSettings

/-- The fields of the section. -/
def known : List KnownField := [{ name := "level" }, { name := "format" }]

theorem decode_encode (s : LoggingSettings) : LoggingSettings.decode s.encode = .ok s := by
  have decoded : LogFormat.decode s.format.encode = .ok s.format := by
    cases s.format <;> rfl
  have level : (Record.optional "level" Decode.text "info").Reads
      [("format", s.format.encode), ("level", .str s.level)] s.level :=
    .fieldOr (v := .str s.level) rfl (by simp) (by simp)
  exact ((level.map LoggingSettings.mk).seq (.fieldOr decoded (by simp) (by simp))).decode_eq _

theorem decode_tolerates : LoggingSettings.decode.Tolerates (Varies known) := by
  have distinct : (known.map KnownField.name).Nodup := by decide
  have level := Follows.plain "level" Decode.text "info" distinct (by simp [known])
  have format := Follows.plain "format" LogFormat.decode LogFormat.pretty distinct (by simp [known])
  have all : Follows known known _ := ((level.map LoggingSettings.mk).seq format :)
  exact all.tolerates _

end LoggingSettings

/-! ## The settings -/

namespace Settings

/-- The numbers of the settings are in the ranges of their fields. -/
structure Fits (s : Settings) : Prop where
  connection : s.connection.Fits
  write : s.write.Fits
  retry : s.retry.Fits

/-- The fields of the settings. -/
def known : List KnownField :=
  [{ name := "connection", varies := Varies ConnectionSettings.known },
    { name := "write", varies := Varies WriteSettings.known },
    { name := "retry", varies := Varies RetrySettings.known },
    { name := "logging", varies := Varies LoggingSettings.known }]

/-- Settings are read back. -/
theorem decode_encode {s : Settings} (fits : s.Fits) : Settings.decode s.encode = .ok s := by
  let fields : Fields Json := [("connection", s.connection.encode), ("logging", s.logging.encode),
    ("retry", s.retry.encode), ("write", s.write.encode)]
  have connection : (Record.optional "connection" ConnectionSettings.decode {}).Reads fields
      s.connection :=
    .fieldOr (ConnectionSettings.decode_encode fits.connection) (by simp [fields])
      (by simp [fields])
  have write : (Record.optional "write" WriteSettings.decode {}).Reads fields s.write :=
    .fieldOr (WriteSettings.decode_encode fits.write) (by simp [fields]) (by simp [fields])
  have retry : (Record.optional "retry" RetrySettings.decode {}).Reads fields s.retry :=
    .fieldOr (RetrySettings.decode_encode fits.retry) (by simp [fields]) (by simp [fields])
  have logging : (Record.optional "logging" LoggingSettings.decode {}).Reads fields s.logging :=
    .fieldOr (LoggingSettings.decode_encode s.logging) (by simp [fields]) (by simp [fields])
  exact ((((connection.map Settings.mk).seq write).seq retry).seq logging).decode_eq _

/-- Settings that are read fit. -/
theorem fits_of_decode (v : Json) (s : Settings) (decoded : Settings.decode v = .ok s) :
    s.Fits := by
  have connection : (Record.optional "connection" ConnectionSettings.decode {}).Yields
      ConnectionSettings.Fits :=
    .optional ConnectionSettings.fits_of_decode (show 10 < twoTo 64 by decide)
  have write : (Record.optional "write" WriteSettings.decode {}).Yields WriteSettings.Fits :=
    .optional WriteSettings.fits_of_decode (show 100 < twoTo 64 by decide)
  have retry : (Record.optional "retry" RetrySettings.decode {}).Yields RetrySettings.Fits :=
    .optional RetrySettings.fits_of_decode ⟨by decide, by decide, by decide⟩
  refine Yields.decode (.seq (.seq (.seq (.map ⟨?_, ?_⟩) write) retry) (.any _)) v s decoded
  · exact fun read write writeFits retry retryFits logging _ =>
      ⟨connection.fields read, writeFits, retryFits⟩
  · exact fun read write writeFits retry retryFits logging _ =>
      ⟨connection.items read, writeFits, retryFits⟩

theorem decode_tolerates : Settings.decode.Tolerates (Varies known) := by
  have distinct : (known.map KnownField.name).Nodup := by decide
  have connection := Follows.withDefault
    { name := "connection", varies := Varies ConnectionSettings.known } {} distinct
    (by simp [known]) ConnectionSettings.decode_tolerates (by simp)
  have write := Follows.withDefault
    { name := "write", varies := Varies WriteSettings.known } {} distinct (by simp [known])
    WriteSettings.decode_tolerates (by simp)
  have retry := Follows.withDefault
    { name := "retry", varies := Varies RetrySettings.known } {} distinct (by simp [known])
    RetrySettings.decode_tolerates (by simp)
  have logging := Follows.withDefault
    { name := "logging", varies := Varies LoggingSettings.known } {} distinct (by simp [known])
    LoggingSettings.decode_tolerates (by simp)
  have all : Follows known known _ :=
    ((((connection.map Settings.mk).seq write).seq retry).seq logging :)
  exact all.tolerates _

end Settings

/-! ## All formats -/

/-- The format of keys. -/
def TupleKey.codec : Codec TupleKey :=
  { encode := encode, decode := decode, known := known }

/-- The format of conditions. -/
def Condition.codec : Codec Condition :=
  { encode := encode, decode := decode, known := known }

/-- The format of tuples. -/
def Tuple.codec : Codec Tuple :=
  { encode := encode, decode := decode, known := known }

/-- The format of policies. -/
def ConflictPolicy.codec : Codec ConflictPolicy :=
  { encode := encode, decode := decode, known := known }

/-- The format of sections of writes. -/
def WriteSection.codec : Codec WriteSection :=
  { encode := encode, decode := decode, known := known }

/-- The format of sections of deletes. -/
def DeleteSection.codec : Codec DeleteSection :=
  { encode := encode, decode := decode, known := known }

/-- The format of bodies. -/
def WriteBody.codec : Codec WriteBody :=
  { encode := encode, decode := decode, known := known }

/-- The format of settings. -/
def Settings.codec : Codec Settings :=
  { encode := encode, decode := decode, known := known, Fits := Fits }

theorem Codec.Sound.of_total {α : Type} {c : Codec α}
    (decode_encode : ∀ a, c.decode (c.encode a) = .ok a)
    (tolerates : c.decode.Tolerates (Varies c.known)) : c.Sound where
  decode_encode a _ := decode_encode a
  decode_again _ a _ := decode_encode a
  decode_varied _ _ _ varies decoded := tolerates varies decoded

/-- What any format writes is read back, what was read can be written and read again, and data that
varies is read alike. -/
theorem codecs_sound :
    TupleKey.codec.Sound ∧ Condition.codec.Sound ∧ Tuple.codec.Sound ∧ ConflictPolicy.codec.Sound ∧
      WriteSection.codec.Sound ∧ DeleteSection.codec.Sound ∧ WriteBody.codec.Sound ∧
      Settings.codec.Sound := by
  refine ⟨.of_total TupleKey.decode_encode TupleKey.decode_tolerates,
    .of_total Condition.decode_encode Condition.decode_tolerates,
    .of_total Tuple.decode_encode Tuple.decode_tolerates,
    .of_total ConflictPolicy.decode_encode ConflictPolicy.decode_tolerates,
    .of_total WriteSection.decode_encode WriteSection.decode_tolerates,
    .of_total DeleteSection.decode_encode DeleteSection.decode_tolerates,
    .of_total WriteBody.decode_encode WriteBody.decode_tolerates, ?_⟩
  exact {
    decode_encode := fun s fits => Settings.decode_encode fits
    decode_again := fun v s decoded => Settings.decode_encode (Settings.fits_of_decode v s decoded)
    decode_varied := fun v w s varies decoded => Settings.decode_tolerates varies decoded }

end TupleClient
