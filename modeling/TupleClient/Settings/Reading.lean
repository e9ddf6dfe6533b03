import TupleClient.Number.Shortest
import TupleClient.Settings.Basic
import TupleClient.Settings.Layer

/-!
# Reading settings from gathered values

The gathered values are a table of sections. A value need not be of the very kind that is wanted: a
number is a text by its digits, a truth value is a number, and a real number is a whole one by
rounding. A section may also be a list of its values in the order of their declaration.

## Main definitions

* `Mismatch` — why a value cannot be read, and `Mismatch.message`, how it is said
* `Setting.readText`, `Setting.readWord`, `Setting.readChoice` — the values of a section
* `Settings.ofSetting` — the settings of a table of sections
-/

namespace TupleClient

namespace Real64

/-- The text of a number. -/
def text (layout : Decimal.Layout) : Real64 → String
  | finite x => x.render layout
  | infinite negative => if negative then "-inf" else "inf"
  | undefined => "NaN"

/-- The number of 64 bits nearest to a number, a half going away from zero; zero for what is not a
number. -/
def toWord : Real64 → Nat
  | finite x => if x.negative then 0 else min x.nearestNat (twoTo 64 - 1)
  | infinite negative => if negative then 0 else twoTo 64 - 1
  | undefined => 0

end Real64

/-- The kinds of values that are expected. -/
inductive Expectation where
  | text
  | integer
deriving DecidableEq

/-- Why a value cannot be read. -/
inductive Mismatch where
  /-- A value under a key is of another kind. -/
  | kind (found : Setting) (expected : Expectation) (key : String)
  /-- A number under a key is negative. -/
  | negative (n : Int) (key : String) (source : Option String)
  /-- A number under a key does not have 32 bits. -/
  | tooLarge (n : Nat) (key : String)
  /-- A section is a value without parts. -/
  | notASection (found : Leaf) (name : String)
  /-- A choice has no such variant. -/
  | unknownVariant (choice variant : String)
  /-- A value is of a kind that is not a variant of a choice. -/
  | notAVariant (choice : String)

namespace Expectation

/-- How an expectation is said. -/
def label : Expectation → String
  | text => "a string"
  | integer => "an integer"

end Expectation

namespace Mismatch

/-- How a value without parts is described that stands in the place of a section. -/
def describe : Leaf → String
  | .null => "unit value"
  | .bool b => "boolean `" ++ toString b ++ "`"
  | .int n => "integer `" ++ toString n ++ "`"
  | .real x => "floating point `" ++ x.text Binary64.messageLayout ++ "`"
  | .text s => "string " ++ Text.quoted s

/-- How a value is described that stands in the place of a text or a number. -/
def describeSetting : Setting → String
  | .leaf _ value => describe value
  | .list _ _ => "sequence"
  | .table _ _ => "map"

/-- The text about a value under a key. -/
def ofKey (found expected key : String) (source : Option String) : String :=
  "invalid type: " ++ found ++ ", expected " ++ expected ++ " for key `" ++ key ++ "`" ++
    match source with
    | some source => " in " ++ source
    | none => ""

/-- Whether the fault lies in the value under one key. -/
def isOfKey : Mismatch → Bool
  | kind _ _ _ | negative _ _ _ | tooLarge _ _ => true
  | notASection _ _ | unknownVariant _ _ | notAVariant _ => false

/-- The text of a mismatch. -/
def message : Mismatch → String
  | kind found expected key => ofKey (describeSetting found) expected.label key found.source
  | negative n key source =>
    ofKey ("64-bit integer `" ++ toString n ++ "`") "an unsigned 64 bit or less integer" key source
  | tooLarge n key =>
    ofKey ("64-bit unsigned integer `" ++ toString n ++ "`") "an unsigned 32 bit integer" key none
  | notASection found name =>
    "invalid type: " ++ describe found ++ ", expected struct " ++ name
  | unknownVariant choice variant =>
    "enum " ++ choice ++ " does not have variant constructor " ++ variant
  | notAVariant choice =>
    "value of enum " ++ choice ++
      " should be represented by either string or table with exactly one key"

end Mismatch

namespace Setting

/-! ### Values -/

/-- The text of a value under a key. -/
def readText (key : String) : Setting → Except Mismatch String
  | leaf _ (.text s) => .ok s
  | leaf _ (.bool b) => .ok (toString b)
  | leaf _ (.int n) => .ok (toString n)
  | leaf _ (.real x) => .ok (x.text Binary64.plainLayout)
  | found => .error (.kind found .text key)

/-- The number of 64 bits that a text stands for: a word for yes or no, or digits after an optional
plus sign. -/
def word? (s : String) : Option Nat :=
  if ["true", "on", "yes"].contains (Text.lowerCase s) then some 1
  else if ["false", "off", "no"].contains (Text.lowerCase s) then some 0
  else
    let digits := match s.toList with
      | '+' :: digits => digits
      | digits => digits
    if !digits.isEmpty && digits.all Char.isDigit then
      ((String.ofList digits).toNat?).filter (· < twoTo 64)
    else none

/-- The number of 64 bits under a key. -/
def readWord (key : String) : Setting → Except Mismatch Nat
  | leaf source (.int n) => if 0 ≤ n then .ok n.toNat else .error (.negative n key source)
  | leaf _ (.bool b) => .ok b.toNat
  | leaf _ (.real x) => .ok x.toWord
  | leaf source (.text s) =>
    match word? s with
    | some n => .ok n
    | none => .error (.kind (leaf source (.text s)) .integer key)
  | found => .error (.kind found .integer key)

/-- The number of 32 bits under a key. -/
def readHalfWord (key : String) (s : Setting) : Except Mismatch Nat :=
  match s.readWord key with
  | .error e => .error e
  | .ok n => if n < twoTo 32 then .ok n else .error (.tooLarge n key)

/-- A value under a key, absent where it is null. -/
def readOption {α : Type} (read : String → Setting → Except Mismatch α) (key : String) :
    Setting → Except Mismatch (Option α)
  | leaf _ .null => .ok none
  | s => (read key s).map some

/-- The variant of a choice that has a name, whatever the case of its letters. -/
def variant {α : Type} (choice : String) (variants : List (String × α)) (name : String) :
    Except Mismatch α :=
  match variants.lookup (Text.lowerCase name) with
  | some a => .ok a
  | none => .error (.unknownVariant choice name)

/-- A choice: the name of a variant, or a table in which it is the only name. -/
def readChoice {α : Type} (choice : String) (variants : List (String × α)) (_key : String) :
    Setting → Except Mismatch α
  | leaf _ (.text name) => variant choice variants name
  | table _ [(name, _)] => variant choice variants name
  | _ => .error (.notAVariant choice)

/-! ### Sections -/

/-- The value of a section that has a name and a place in the order of declaration, with its key. -/
def part? (name : String) (s : Setting) (place : Nat) (field : String) :
    Option (String × Setting) :=
  match s with
  | leaf _ _ => none
  | list _ items => (items[place]?).map fun v => (name ++ "[" ++ toString place ++ "]", v)
  | table _ fields => (Fields.find? field fields).map fun v => (name ++ "." ++ field, v)

/-- The value of a section read, or the given one if it has not been set. -/
def readPart {α : Type} (name : String) (s : Setting) (place : Nat) (field : String)
    (read : String → Setting → Except Mismatch α) (unset : α) : Except Mismatch α :=
  match s.part? name place field with
  | some (key, value) => read key value
  | none => .ok unset

/-- What a section of settings reads to. A section that has not been set has its defaults. -/
def readSection {α : Type} (root : Setting) (name struct : String)
    (read : Setting → Except Mismatch α) (unset : α) : Except Mismatch α :=
  match root.get? name with
  | none => .ok unset
  | some (leaf _ value) => .error (.notASection value struct)
  | some s => read s

end Setting

open Setting

/-- The connection of a section. -/
def ConnectionSettings.ofSetting (s : Setting) : Except Mismatch ConnectionSettings := do
  .ok { apiUrl := ← readPart "connection" s 0 "api_url" readText "http://localhost:8080"
        storeId := ← readPart "connection" s 1 "store_id" readText ""
        authorizationModelId :=
          ← readPart "connection" s 2 "authorization_model_id" (readOption readText) none
        requestTimeoutSecs := ← readPart "connection" s 3 "request_timeout_secs" readWord 10 }

/-- The handling of writes of a section. -/
def WriteSettings.ofSetting (s : Setting) : Except Mismatch WriteSettings := do
  let directives := [("error", Directive.error), ("ignore", .ignore)]
  .ok { maxTuplesPerCall := ← readPart "write" s 0 "max_tuples_per_call" readWord 100
        onDuplicateWrites := ← readPart "write" s 1 "on_duplicate_writes"
          (readChoice "OnDuplicateWrite" directives) .error
        onMissingDeletes := ← readPart "write" s 2 "on_missing_deletes"
          (readChoice "OnMissingDelete" directives) .error }

/-- The retries of a section. -/
def RetrySettings.ofSetting (s : Setting) : Except Mismatch RetrySettings := do
  .ok { maxRetries := ← readPart "retry" s 0 "max_retries" readHalfWord 3
        minWaitMs := ← readPart "retry" s 1 "min_wait_ms" readWord 100
        maxWaitMs := ← readPart "retry" s 2 "max_wait_ms" readWord 5000 }

/-- The log of a section. -/
def LoggingSettings.ofSetting (s : Setting) : Except Mismatch LoggingSettings := do
  let formats := [("pretty", LogFormat.pretty), ("json", .json)]
  .ok { level := ← readPart "logging" s 0 "level" readText "info"
        format := ← readPart "logging" s 1 "format" (readChoice "LogFormat" formats) .pretty }

/-- The settings of a table of sections. -/
def Settings.ofSetting (root : Setting) : Except Mismatch Settings := do
  .ok { connection :=
          ← readSection root "connection" "ConnectionSettings" ConnectionSettings.ofSetting {}
        write := ← readSection root "write" "WriteSettings" WriteSettings.ofSetting {}
        retry := ← readSection root "retry" "RetrySettings" RetrySettings.ofSetting {}
        logging := ← readSection root "logging" "LoggingSettings" LoggingSettings.ofSetting {} }

end TupleClient
