import TupleClient.Json.Decode
import TupleClient.Tuple.Basic

/-!
# Tuples as data

A key is an object of three texts. A condition is an object of its name and, unless it is empty,
its context. A tuple is its key with, if there is one, its condition.

## Main definitions

* `TupleKey.encode`, `Condition.encode`, `Tuple.encode` — the data of a value
* `TupleKey.decode`, `Condition.decode`, `Tuple.decode` — the value of data
-/

namespace TupleClient

namespace TupleKey

/-- The fields of a key, in order. -/
def encodedFields (key : TupleKey) : Fields Json :=
  [("object", .str key.object), ("relation", .str key.relation), ("user", .str key.user)]

/-- The data of a key. -/
def encode (key : TupleKey) : Json := .obj key.encodedFields

/-- How the fields of a key are read. -/
def record : Record TupleKey :=
  (((Record.field "user" Decode.text).map TupleKey.mk).seq
    (Record.field "relation" Decode.text)).seq (Record.field "object" Decode.text)

/-- The key of data. -/
def decode : Decoder TupleKey := record.decode "TupleKey"

end TupleKey

namespace Condition

/-- The data of a condition. An empty context is left out. -/
def encode (c : Condition) : Json :=
  .obj ((if c.context.isEmpty then [] else [("context", .obj c.context)]) ++
    [("name", .str c.name)])

/-- How the fields of a condition are read. -/
def record : Record Condition :=
  ((Record.field "name" Decode.text).map Condition.mk).seq
    (Record.optional "context" Decode.fields [])

/-- The condition of data. -/
def decode : Decoder Condition := record.decode "TupleCondition"

end Condition

namespace Tuple

/-- The data of a tuple. An absent condition is left out. -/
def encode (t : Tuple) : Json :=
  .obj ((match t.condition with
    | some c => [("condition", c.encode)]
    | none => []) ++ t.key.encodedFields)

/-- How the fields of a tuple are read. -/
def record : Record Tuple :=
  (TupleKey.record.map Tuple.mk).seq
    (Record.optional "condition" (Decode.option Condition.decode) none)

/-- The tuple of data. -/
def decode : Decoder Tuple := record.decode "Tuple"

end Tuple

end TupleClient
