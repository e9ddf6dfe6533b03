import TupleClient.Json.Basic
import TupleClient.Number.Shortest
import TupleClient.Text.Quoted

/-!
# Reading domain values from data

A decoder turns a data value into a value of the domain or says what is wrong with it. Records are
read from an object, whose fields may come in any order and whose unknown fields are skipped, or
from an array, whose items are the fields in the order of their declaration.

In an object the first entry that does not decode is the error; only then are missing fields
reported, the first one declared first. In an array the items are read from the left.

## Main definitions

* `DecodeError` — what is wrong, and `DecodeError.message`, how it is said
* `Record` — how the fields of a record are read, built with `Record.field`, `Record.optional` and
  `Record.seq`
* `Record.decode` — the decoder of a record
* `Decode.text`, `Decode.natural`, `Decode.list`, `Decode.option`, `Decode.variant` — the decoders
  of the fields
-/

namespace TupleClient

/-- What is wrong with a data value. -/
inductive DecodeError where
  /-- A value of another kind was expected. -/
  | invalidType (found : Json) (expected : String)
  /-- A value of the right kind is not among those expected. -/
  | invalidValue (found : Json) (expected : String)
  /-- An array has the wrong number of items. -/
  | invalidLength (length : Nat) (expected : String)
  /-- A name is not among those of the two variants. -/
  | unknownVariant (name first second : String)
  /-- A field without a default is missing. -/
  | missingField (name : String)
deriving Inhabited

namespace DecodeError

/-- How a value is described: a scalar with its value, a container by its kind. -/
def describe : Json → String
  | .null => "null"
  | .bool true => "boolean `true`"
  | .bool false => "boolean `false`"
  | .int n => "integer `" ++ toString n ++ "`"
  | .float x => "floating point `" ++ x.render Binary64.dataLayout ++ "`"
  | .str s => "string " ++ Text.quoted s
  | .arr _ => "sequence"
  | .obj _ => "map"

/-- The text of a decoding error. -/
def message : DecodeError → String
  | invalidType found expected => "invalid type: " ++ describe found ++ ", expected " ++ expected
  | invalidValue found expected => "invalid value: " ++ describe found ++ ", expected " ++ expected
  | invalidLength length expected =>
    "invalid length " ++ toString length ++ ", expected " ++ expected
  | unknownVariant name first second =>
    "unknown variant `" ++ name ++ "`, expected `" ++ first ++ "` or `" ++ second ++ "`"
  | missingField name => "missing field `" ++ name ++ "`"

end DecodeError

/-- A way to read a value of the domain from data. -/
abbrev Decoder (α : Type) := Json → Except DecodeError α

namespace Decode

/-- Any data value, as it is. -/
def value : Decoder Json := .ok

/-- A text. -/
def text : Decoder String
  | .str s => .ok s
  | v => .error (.invalidType v "a string")

/-- A whole number below `bound`, which messages call `name`. -/
def natural (bound : Nat) (name : String) : Decoder Nat
  | .int n =>
    if 0 ≤ n ∧ n < bound then .ok n.toNat else .error (.invalidValue (.int n) name)
  | v => .error (.invalidType v name)

/-- The items of a list, read by `item` from the left. -/
def items {α : Type} (item : Decoder α) : List Json → Except DecodeError (List α)
  | [] => .ok []
  | v :: rest =>
    match item v with
    | .error e => .error e
    | .ok a =>
      match items item rest with
      | .error e => .error e
      | .ok as => .ok (a :: as)

/-- A list. -/
def list {α : Type} (item : Decoder α) : Decoder (List α)
  | .arr vs => items item vs
  | v => .error (.invalidType v "a sequence")

/-- The fields of an object, as they are. -/
def fields : Decoder (Fields Json)
  | .obj fs => .ok fs
  | v => .error (.invalidType v "a map")

/-- A value that null stands in for the absence of. -/
def option {α : Type} (some? : Decoder α) : Decoder (Option α)
  | .null => .ok none
  | v => (some? v).map some

/-- One of two variants, by name. -/
def variantName {α : Type} (first second : String × α) (name : String) :
    Except DecodeError α :=
  if name = first.1 then .ok first.2
  else if name = second.1 then .ok second.2
  else .error (.unknownVariant name first.1 second.1)

/-- One of two variants: its name, or an object with the name as its only field and null in it. -/
def variant {α : Type} (first second : String × α) : Decoder α
  | .str name => variantName first second name
  | .obj [(name, v)] =>
    match variantName first second name, v with
    | .error e, _ => .error e
    | .ok a, .null => .ok a
    | .ok _, v => .error (.invalidType v "unit")
  | .obj fs => .error (.invalidValue (.obj fs) "map with a single key")
  | v => .error (.invalidType v "string or map")

end Decode

/-- How the fields of a record are read. -/
structure Record (α : Type) where
  /-- The number of fields. -/
  size : Nat
  /-- Whether an entry of an object is one that its field can be read from. -/
  check : String → Json → Except DecodeError Unit
  /-- The fields, from an object whose entries have been checked. -/
  fromFields : Fields Json → Except DecodeError α
  /-- The fields, from the items of an array. Given what was expected and the position of the first
  item, yields the items that are left. -/
  fromItems : String → Nat → List Json → Except DecodeError (α × List Json)

namespace Record

variable {α β : Type}

/-- One field, with what it is when it is missing. -/
def fieldOr (name : String) (decoder : Decoder α) (missing : Except DecodeError α)
    (missingItem : String → Nat → Except DecodeError α) : Record α where
  size := 1
  check entry v := if entry = name then (decoder v).map fun _ => () else .ok ()
  fromFields fs :=
    match Fields.find? name fs with
    | some v => decoder v
    | none => missing
  fromItems expected position
    | v :: rest => (decoder v).map fun a => (a, rest)
    | [] => (missingItem expected position).map fun a => (a, [])

/-- A field that must be there. -/
def field (name : String) (decoder : Decoder α) : Record α :=
  fieldOr name decoder (.error (.missingField name))
    fun expected position => .error (.invalidLength position expected)

/-- A field with a default. -/
def optional (name : String) (decoder : Decoder α) (default : α) : Record α :=
  fieldOr name decoder (.ok default) fun _ _ => .ok default

/-- A function of fields that are read first, applied to fields that are read next. -/
def seq (f : Record (α → β)) (x : Record α) : Record β where
  size := f.size + x.size
  check entry v :=
    match f.check entry v with
    | .error e => .error e
    | .ok () => x.check entry v
  fromFields fs :=
    match f.fromFields fs with
    | .error e => .error e
    | .ok g => (x.fromFields fs).map g
  fromItems expected position items :=
    match f.fromItems expected position items with
    | .error e => .error e
    | .ok (g, rest) =>
      (x.fromItems expected (position + f.size) rest).map fun (a, left) => (g a, left)

/-- A function of the fields of a record. -/
def map (g : α → β) (r : Record α) : Record β where
  size := r.size
  check := r.check
  fromFields fs := (r.fromFields fs).map g
  fromItems expected position items :=
    (r.fromItems expected position items).map fun (a, left) => (g a, left)

/-- The first entry of an object that its field cannot be read from is the error. -/
def checkAll (r : Record α) : Fields Json → Except DecodeError Unit
  | [] => .ok ()
  | (name, v) :: rest =>
    match r.check name v with
    | .error e => .error e
    | .ok () => checkAll r rest

/-- The decoder of the record that messages call `name`. -/
def decode (name : String) (r : Record α) : Decoder α
  | .obj fs =>
    match r.checkAll fs with
    | .error e => .error e
    | .ok () => r.fromFields fs
  | .arr items =>
    match r.fromItems ("struct " ++ name ++ " with " ++ toString r.size ++ " elements") 0 items with
    | .error e => .error e
    | .ok (a, []) => .ok a
    | .ok (_, _ :: _) => .error (.invalidLength items.length "fewer elements in array")
  | v => .error (.invalidType v ("struct " ++ name))

end Record

end TupleClient
