import TupleClient.Proofs.Codec
import TupleClient.Proofs.Operations
import TupleClient.Service.Basic
import TupleClient.Transaction

/-!
# What a request does to the service

What the service makes of a request depends on its stores and its limit alone: it refuses the
request and keeps its stores, or it accepts it and changes the one store that the request names. A
request that it accepted and that rejects no conflict is accepted again, without a further effect.

## Main definitions

* `Service.verdict` — why a request is refused, or the stores after it

## Main results

* `Service.handle_of_verdict_ok`, `Service.handle_of_verdict_error` — the response and the service
  after a request
* `Service.verdict_replay` — a request that may be replayed is accepted again, without an effect
* `Service.route?_request`, `Service.readBody_request` — the service finds the store and the body in
  the request that carries a chunk
-/

namespace TupleClient

namespace Service

/-- What the service makes of a request: why it refuses it, or the stores after it. The number of
the request and its identifier play no part. -/
def verdict (limit : Nat) (stores : Table String Store) (r : Request) :
    Except Refusal (Table String Store) :=
  match route? r with
  | none => .error (.noRoute r.method.name r.path)
  | some storeId =>
    match readBody r with
    | .error e => .error e
    | .ok b => (judge { stores, limit } storeId b).1

variable {s : Service} {limit : Nat} {stores stores' : Table String Store} {r : Request}

/-- What the service makes of a request with a body that it can read. -/
theorem verdict_eq {storeId : String} {b : WriteBody} (route : route? r = some storeId)
    (read : readBody r = .ok b) :
    verdict limit stores r =
      match bodyRefusal? limit b with
      | some e => .error e
      | none =>
        match stores.find? storeId with
        | none => .error (.unknownStore storeId)
        | some store =>
          match store.refusal? b with
          | some e => .error e
          | none => .ok (stores.insert storeId (store.apply b)) := by
  simp only [verdict, route, read, judge]
  cases bodyRefusal? limit b with
  | some e => rfl
  | none =>
    cases stores.find? storeId with
    | none => rfl
    | some store =>
      dsimp only
      cases store.refusal? b <;> rfl

/-- The requests that are accepted, with what comes of them. -/
theorem verdict_eq_ok_iff :
    verdict limit stores r = .ok stores' ↔
      ∃ storeId b store, route? r = some storeId ∧ readBody r = .ok b ∧
        bodyRefusal? limit b = none ∧ stores.find? storeId = some store ∧
        store.refusal? b = none ∧ stores' = stores.insert storeId (store.apply b) := by
  cases route : route? r with
  | none => simp [verdict, route]
  | some storeId =>
    cases read : readBody r with
    | error e => simp [verdict, route, read]
    | ok b =>
      rw [verdict_eq route read]
      cases fits : bodyRefusal? limit b with
      | some e => simp [fits]
      | none =>
        cases found : stores.find? storeId with
        | none => simp [found]
        | some store =>
          cases conflict : store.refusal? b with
          | some e => simp [found, conflict]
          | none => simp [fits, found, conflict, eq_comm]

/-! ## Responses -/

/-- What is decided about a request tells its response and the service after it. -/
theorem handle_eq (s : Service) (r : Request) :
    ∃ headers, ((s.handle r).1, (s.handle r).2.1) =
      match verdict s.limit s.stores r with
      | .ok stores => (⟨200, .obj [], headers⟩, { s with stores, calls := s.calls + 1 })
      | .error e => (refuse e headers, { s with calls := s.calls + 1 }) := by
  unfold handle verdict
  cases route : route? r with
  | none => exact ⟨_, rfl⟩
  | some storeId =>
    cases read : readBody r with
    | error e => exact ⟨_, rfl⟩
    | ok b =>
      have same : judge { s with calls := s.calls + 1 } storeId b =
        judge { stores := s.stores, limit := s.limit } storeId b := rfl
      simp only [same]
      cases judged : judge { stores := s.stores, limit := s.limit } storeId b with
      | mk verdict passed => cases verdict <;> exact ⟨_, rfl⟩

/-- The response to a request that is accepted reports success, and the stores change. -/
theorem handle_of_verdict_ok (accepted : verdict s.limit s.stores r = .ok stores) :
    ∃ headers, (s.handle r).1 = ⟨200, .obj [], headers⟩ ∧
      (s.handle r).2.1 = { s with stores, calls := s.calls + 1 } := by
  obtain ⟨headers, both⟩ := handle_eq s r
  rw [accepted] at both
  exact ⟨headers, Prod.mk.inj both⟩

/-- The response to a request that is refused says why, and the stores stay as they are. -/
theorem handle_of_verdict_error {e : Refusal} (refused : verdict s.limit s.stores r = .error e) :
    ∃ headers, (s.handle r).1 = refuse e headers ∧
      (s.handle r).2.1 = { s with calls := s.calls + 1 } := by
  obtain ⟨headers, both⟩ := handle_eq s r
  rw [refused] at both
  exact ⟨headers, Prod.mk.inj both⟩

theorem isSuccess_refuse (e : Refusal) (headers : Headers) :
    (refuse e headers).isSuccess = false := by
  cases e <;> rfl

theorem status_refuse_ne (e : Refusal) (headers : Headers) : (refuse e headers).status ≠ 200 := by
  cases e <;> simp [refuse, Refusal.status]

/-- The service answers at once and leaves the token alone. -/
theorem link_answers (watch : Watch) (r : Request) (w : World Service) :
    ∃ w', link watch r w = (.answered (.response (w.far.handle r).1), w') ∧
      w'.far = (w.far.handle r).2.1 ∧ w'.cancelled = w.cancelled :=
  ⟨_, rfl, rfl, rfl⟩

/-! ## Replays -/

/-- A body is refused on its own for the number of its tuples or for a key that comes twice. -/
theorem bodyRefusal?_eq_none_iff {b : WriteBody} :
    bodyRefusal? limit b = none ↔ 1 ≤ b.tupleCount ∧ b.tupleCount ≤ limit ∧ b.keys.Nodup := by
  unfold bodyRefusal?
  by_cases empty : b.tupleCount = 0
  · simp [empty]
  · rw [if_neg empty]
    by_cases many : limit < b.tupleCount
    · simp [many, Nat.not_le.mpr many]
    · rw [if_neg many, Option.map_eq_none_iff, repeatedKey?_eq_none_iff]
      simp only [List.not_mem_nil, not_false_eq_true, implies_true, and_true]
      exact ⟨fun distinct => ⟨by omega, by omega, distinct⟩, fun accepted => accepted.2.2⟩

theorem nodup_of_bodyRefusal?_eq_none {b : WriteBody} (accepted : bodyRefusal? limit b = none) :
    b.keys.Nodup :=
  (bodyRefusal?_eq_none_iff.mp accepted).2.2

/-- A request that may be replayed is accepted again after it was accepted, without an effect. -/
theorem verdict_replay (safe : r.isReplaySafe = true)
    (accepted : verdict limit stores r = .ok stores') :
    verdict limit stores' r = .ok stores' := by
  obtain ⟨storeId, b, store, route, read, fits, found, unrefused, rfl⟩ :=
    verdict_eq_ok_iff.mp accepted
  have bodySafe : b.isReplaySafe = true := by
    have body : r.writeBody? = some b := by
      unfold readBody at read
      cases given : r.body with
      | none => simp [given] at read
      | some data =>
        cases decoded : WriteBody.decode data with
        | error e => simp [given, decoded] at read
        | ok b => simpa [Request.writeBody?, given, decoded] using read
    simpa [Request.isReplaySafe, body] using safe
  obtain ⟨again, idle⟩ :=
    Store.apply_replay (nodup_of_bodyRefusal?_eq_none fits) bodySafe unrefused
  refine verdict_eq_ok_iff.mpr ⟨storeId, b, store.apply b, route, read, fits, ?_, again, ?_⟩
  · rw [Table.find?_insert, if_pos rfl]
  · rw [idle, Table.insert_insert]

/-! ## Requests that carry a chunk -/

theorem dropStart?_append {α : Type} [DecidableEq α] (start rest : List α) :
    dropStart? start (start ++ rest) = some rest := by
  induction start with
  | nil => cases rest <;> rfl
  | cons a start ih => simp [dropStart?, ih]

theorem dropEnd?_append {α : Type} [DecidableEq α] (start ending : List α) :
    dropEnd? ending (start ++ ending) = some start := by
  simp [dropEnd?, dropStart?_append]

/-- The path of write requests to a store leads to that store. -/
theorem writeStoreId?_writePath {storeId : String} (nonempty : storeId ≠ "")
    (noSlash : '/' ∉ storeId.toList) : writeStoreId? (writePath storeId) = some storeId := by
  have parts : (writePath storeId).toList =
      "/stores/".toList ++ (storeId.toList ++ "/write".toList) := by
    simp [writePath, String.toList_append]
  rw [writeStoreId?, parts, dropStart?_append, Option.bind_some, dropEnd?_append]
  simp [nonempty, noSlash]

theorem route?_request {t : Transaction} {chunk : Chunk} (nonempty : t.storeId ≠ "")
    (noSlash : '/' ∉ t.storeId.toList) : route? (t.request chunk) = some t.storeId := by
  rw [route?, Transaction.request, if_pos rfl, writeStoreId?_writePath nonempty noSlash]

/-- The service reads the body that a chunk was turned into. -/
theorem readBody_request (t : Transaction) (chunk : Chunk) :
    readBody (t.request chunk) =
      .ok (WriteBody.ofChunk chunk t.policy t.call.authorizationModelId) := by
  simp [readBody, Transaction.request, WriteBody.decode_encode]

end Service

/-- A section of the body of a chunk has its own directive, whatever the other one has. -/
theorem WriteBody.directives_ofChunk (chunk : Chunk) (policy : ConflictPolicy)
    (authorizationModelId : Option String) :
    let b := ofChunk chunk policy authorizationModelId
    (∀ s, b.writes = some s → s.onDuplicate = policy.onDuplicateWrite) ∧
      ∀ s, b.deletes = some s → s.onMissing = policy.onMissingDelete := by
  intro b
  refine ⟨fun s present => ?_, fun s present => ?_⟩
  · simp only [b, ofChunk, Option.ite_none_left_eq_some, Option.some.injEq] at present
    rw [← present.2]
  · simp only [b, ofChunk, Option.ite_none_left_eq_some, Option.some.injEq] at present
    rw [← present.2]

theorem Transaction.writeBody?_request (t : Transaction) (chunk : Chunk) :
    (t.request chunk).writeBody? =
      some (WriteBody.ofChunk chunk t.policy t.call.authorizationModelId) := by
  simp [Request.writeBody?, request, WriteBody.decode_encode]

end TupleClient
