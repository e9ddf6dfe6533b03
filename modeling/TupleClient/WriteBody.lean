import TupleClient.Chunk
import TupleClient.Conflict
import TupleClient.Tuple.Codec

/-!
# Bodies of write requests

A write request carries a section of tuples to write and a section of keys to delete, each with the
directive for its kind of conflict, and the model that the tuples are to be checked against. A
section without tuples is left out, and a directive that is left out rejects.

## Main definitions

* `WriteSection`, `DeleteSection`, `WriteBody` — the body and its parts
* `WriteBody.ofChunk` — the body of one chunk
* `WriteBody.isReplaySafe` — no section rejects conflicts, so that sending the body again after it
  was applied succeeds again
* `WriteBody.encode`, `WriteBody.decode` — the body as data
* `writePath` — the path of write requests to a store
-/

namespace TupleClient

/-- The path of write requests to a store. -/
def writePath (storeId : String) : String := "/stores/" ++ storeId ++ "/write"

/-- The tuples to write, and what becomes of one that is present. -/
structure WriteSection where
  tuples : List Tuple
  onDuplicate : Directive := .error
deriving Inhabited

/-- The keys to delete, and what becomes of one that is absent. -/
structure DeleteSection where
  keys : List TupleKey
  onMissing : Directive := .error
deriving Inhabited

/-- The body of a write request. -/
structure WriteBody where
  writes : Option WriteSection := none
  deletes : Option DeleteSection := none
  authorizationModelId : Option String := none
deriving Inhabited

namespace WriteSection

/-- The data of a section of writes. -/
def encode (s : WriteSection) : Json :=
  .obj [("on_duplicate", s.onDuplicate.encode), ("tuple_keys", .arr (s.tuples.map Tuple.encode))]

/-- The section of writes of data. -/
def decode : Decoder WriteSection :=
  Record.decode "WriteSection"
    (((Record.field "tuple_keys" (Decode.list Tuple.decode)).map WriteSection.mk).seq
      (Record.optional "on_duplicate" Directive.decode .error))

end WriteSection

namespace DeleteSection

/-- The data of a section of deletes. -/
def encode (s : DeleteSection) : Json :=
  .obj [("on_missing", s.onMissing.encode), ("tuple_keys", .arr (s.keys.map TupleKey.encode))]

/-- The section of deletes of data. -/
def decode : Decoder DeleteSection :=
  Record.decode "DeleteSection"
    (((Record.field "tuple_keys" (Decode.list TupleKey.decode)).map DeleteSection.mk).seq
      (Record.optional "on_missing" Directive.decode .error))

end DeleteSection

namespace WriteBody

/-- The tuples to write. -/
def writtenTuples (b : WriteBody) : List Tuple :=
  match b.writes with
  | some s => s.tuples
  | none => []

/-- The keys to delete. -/
def deletedKeys (b : WriteBody) : List TupleKey :=
  match b.deletes with
  | some s => s.keys
  | none => []

/-- What becomes of a write of a tuple that is present. -/
def onDuplicate (b : WriteBody) : Directive :=
  match b.writes with
  | some s => s.onDuplicate
  | none => .error

/-- What becomes of a delete of a tuple that is absent. -/
def onMissing (b : WriteBody) : Directive :=
  match b.deletes with
  | some s => s.onMissing
  | none => .error

/-- The number of tuples of both sections. -/
def tupleCount (b : WriteBody) : Nat := b.writtenTuples.length + b.deletedKeys.length

/-- Whether no section rejects conflicts. -/
def isReplaySafe (b : WriteBody) : Bool :=
  (match b.writes with
    | some s => s.onDuplicate == .ignore
    | none => true) &&
  (match b.deletes with
    | some s => s.onMissing == .ignore
    | none => true)

/-- The body that carries one chunk. -/
def ofChunk (chunk : Chunk) (policy : ConflictPolicy) (authorizationModelId : Option String) :
    WriteBody where
  writes :=
    if chunk.writes.isEmpty then none else some ⟨chunk.writes, policy.onDuplicateWrite⟩
  deletes :=
    if chunk.deletes.isEmpty then none
    else some ⟨chunk.deletes.map Tuple.key, policy.onMissingDelete⟩
  authorizationModelId := authorizationModelId

/-- A field that is left out when there is no value. -/
def encodedOption {α : Type} (name : String) (encode : α → Json) : Option α → Fields Json
  | some a => [(name, encode a)]
  | none => []

/-- The data of a body. -/
def encode (b : WriteBody) : Json :=
  .obj (encodedOption "authorization_model_id" Json.str b.authorizationModelId ++
    encodedOption "deletes" DeleteSection.encode b.deletes ++
    encodedOption "writes" WriteSection.encode b.writes)

/-- The body of data. -/
def decode : Decoder WriteBody :=
  Record.decode "WriteRequestBody"
    ((((Record.optional "writes" (Decode.option WriteSection.decode) none).map WriteBody.mk).seq
      (Record.optional "deletes" (Decode.option DeleteSection.decode) none)).seq
      (Record.optional "authorization_model_id" (Decode.option Decode.text) none))

end WriteBody

end TupleClient
