import TupleClient.Failure.Reply
import TupleClient.Link

/-!
# Transactions

A transaction sends the chunks of a change set one at a time and in order. A chunk is sent only
after the one before it succeeded, so when a transaction fails, the index of the failed chunk is
also the number of chunks that took effect. A caller who watches the token stops the transaction
before a chunk is sent or while its call waits.

## Main definitions

* `Summary`, `Outcome` — what comes of a transaction
* `Transaction` — what its requests have in common
* `Transaction.sendChunks` — the chunks sent one after the other
* `Transaction.execute` — a change set executed over a link
-/

namespace TupleClient

/-- What a successful transaction did. -/
structure Summary where
  chunksApplied : Nat := 0
  writes : Nat := 0
  deletes : Nat := 0
deriving DecidableEq, Inhabited

/-- What comes of a transaction. -/
inductive Outcome where
  | success (summary : Summary)
  | failed (failure : Failure) (chunkIndex : Nat)
deriving DecidableEq, Inhabited

namespace Outcome

/-- Whether a transaction succeeded. -/
def isSuccess : Outcome → Bool
  | success _ => true
  | failed _ _ => false

end Outcome

/-- The text of the failure of a chunk. -/
def failureMessage (failure : Failure) (chunkIndex : Nat) : String :=
  "transaction failed at chunk " ++ toString chunkIndex ++ ": " ++ failure.kind.name

/-- What the requests of a transaction have in common. -/
structure Transaction where
  storeId : String
  policy : ConflictPolicy
  call : CallMetadata
  watch : Watch

namespace Transaction

variable {σ : Type}

/-- A field that is left out of an event when it has no value. -/
def optionalValue (name : String) (value : Option Json) : List (String × Json) :=
  match value with
  | some v => [(name, v)]
  | none => []

/-- The operation as the first value of an event. -/
def operation (call : CallMetadata) : List (String × Json) :=
  [("operation", .str call.operationName)]

/-- The end of a transaction that failed. -/
def fail (failure : Failure) (chunkIndex : Nat) (w : World σ) : Outcome × World σ :=
  (.failed failure chunkIndex,
    w.say .warn .transaction "transaction failed"
      ([("operation", .str (failure.context.operationName.getD "")),
        ("chunk_index", Json.nat chunkIndex), ("kind", .str failure.kind.name)] ++
        optionalValue "status" (failure.status.map Json.nat) ++
        optionalValue "code" (failure.code.map Json.str) ++
        optionalValue "request_id" (failure.context.requestId.map Json.str)))

/-- The request that carries a chunk. -/
def request (t : Transaction) (chunk : Chunk) : Request where
  method := .post
  path := writePath t.storeId
  body := some (WriteBody.ofChunk chunk t.policy t.call.authorizationModelId).encode
  call := t.call

/-- A summary with one more chunk. -/
def addChunk (s : Summary) (chunk : Chunk) : Summary :=
  ⟨s.chunksApplied + 1, s.writes + chunk.writes.length, s.deletes + chunk.deletes.length⟩

/-- Sends chunks one after the other, given what was done before them. -/
def sendChunks (t : Transaction) (link : Link σ) (done : Summary) :
    List Chunk → World σ → Outcome × World σ
  | [], w =>
    (.success done,
      w.say .info .transaction "change set applied"
        (operation t.call ++ [("chunks", Json.nat done.chunksApplied),
          ("writes", Json.nat done.writes), ("deletes", Json.nat done.deletes)]))
  | chunk :: rest, w =>
    -- Nothing has been sent for this chunk yet: the transaction stops between two chunks.
    if w.isStopped t.watch then fail (.cancellation t.call) chunk.index w
    else
      match link t.watch (t.request chunk) w with
      | (.abandoned, w) => fail (.cancellation t.call) chunk.index w
      | (.answered reply, w) =>
        match reply.result t.call with
        | .error failure => fail failure chunk.index w
        | .ok _ =>
          sendChunks t link (addChunk done chunk) rest
            (w.say .debug .transaction "chunk applied"
              (operation t.call ++ [("chunk_index", Json.nat chunk.index),
                ("tuples", Json.nat chunk.size)]))

/-- The identifier of the store of a call, unless it is missing or blank. -/
def storeId? (call : CallMetadata) : Option String :=
  call.storeId.filter fun id => !Text.isBlank id

/-- Executes a change set over a link. -/
def execute (link : Link σ) (limit : ChunkLimit) (cs : ChangeSet) (policy : ConflictPolicy)
    (call : CallMetadata) (watch : Watch) (w : World σ) : Outcome × World σ :=
  let chunks := cs.split limit
  if chunks.isEmpty then
    (.success {}, w.say .debug .transaction "empty change set, nothing to send" (operation call))
  else
    match storeId? call with
    | none => fail (.ofInput "a store id is required to write tuples" call) 0 w
    | some storeId =>
      sendChunks ⟨storeId, policy, call, watch⟩ link {} chunks
        (w.say .debug .transaction "executing change set"
          (operation call ++ [("store_id", .str storeId), ("chunks", Json.nat chunks.length),
            ("writes", Json.nat cs.writes.length), ("deletes", Json.nat cs.deletes.length),
            ("on_duplicate", .str policy.onDuplicateWrite.name),
            ("on_missing", .str policy.onMissingDelete.name)]))

end Transaction

end TupleClient
