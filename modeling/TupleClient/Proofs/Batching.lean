import TupleClient.Proofs.Admission
import TupleClient.Proofs.ChunkLoop
import TupleClient.Proofs.ServiceEffect

/-!
# Transactions one operation at a time

A transaction over the service does what its operations would do one after the other, up to the
first bad one. The window of the first bad operation has no effect at all, and no later window is
sent.

## Main definitions

* `ChangeSet.operations`, `Chunk.operations` — the writes followed by the deletes
* `Transaction.Progress` — the service has done the operations of the first windows

## Main results

* `Service.verdict_request`, `Service.verdict_request_eq_ok_iff` — the service judges the operations
  of a chunk together
* `Transaction.execute_service` — a transaction against its operations one at a time
-/

namespace TupleClient

/-! ## Requests that carry a window -/

/-- The operations of a change set: its writes followed by its deletes. -/
def ChangeSet.operations (cs : ChangeSet) : List Operation :=
  cs.writes.map .write ++ cs.deletes.map fun t => .delete t.key

/-- The operations of a chunk. -/
def Chunk.operations (c : Chunk) : List Operation :=
  c.writes.map .write ++ c.deletes.map fun t => .delete t.key

theorem ChangeSet.length_operations (cs : ChangeSet) : cs.operations.length = cs.size := by
  simp [operations, size]

theorem Chunk.length_operations (c : Chunk) : c.operations.length = c.size := by
  simp [operations, size]

/-- The operations of a chunk are those of its window. -/
theorem ChangeSet.operations_chunkAt (limit : ChunkLimit) (cs : ChangeSet) (i : ℕ) :
    (cs.chunkAt limit i).operations = limit.window cs.operations i :=
  cs.chunkAt_append limit Operation.write (fun t => Operation.delete t.key) i

/-- A chunk has no operations beyond those of its change set. -/
theorem ChangeSet.operations_chunkAt_subset (limit : ChunkLimit) (cs : ChangeSet) (i : ℕ) :
    (cs.chunkAt limit i).operations ⊆ cs.operations := by
  rw [operations_chunkAt]
  exact fun op member => List.mem_of_mem_drop (List.mem_of_mem_take member)

namespace WriteBody

variable {chunk : Chunk} {policy : ConflictPolicy} {model : Option String}

theorem operations_ofChunk : (ofChunk chunk policy model).operations = chunk.operations := by
  obtain ⟨index, writes, deletes⟩ := chunk
  cases writes <;> cases deletes <;>
    simp [ofChunk, operations, writtenTuples, deletedKeys, Chunk.operations]

/-- A chunk carries the directive of every kind of operation that it has. -/
theorem conflict?_ofChunk {s : Store} {op : Operation} (member : op ∈ chunk.operations) :
    s.conflict? (ofChunk chunk policy model).policy op = s.conflict? policy op := by
  obtain ⟨index, writes, deletes⟩ := chunk
  cases op with
  | write t =>
    have present : writes ≠ [] := by
      rintro rfl
      simp [Chunk.operations] at member
    simp [Store.conflict?, WriteBody.policy, ofChunk, onDuplicate, present]
  | delete key =>
    have present : deletes ≠ [] := by
      rintro rfl
      simp [Chunk.operations] at member
    simp [Store.conflict?, WriteBody.policy, ofChunk, onMissing, present]

/-- A chunk is refused for its first operation in conflict. The directive of a section that is left
out is not the policy's, but nothing asks for it. -/
theorem refusal?_ofChunk {s : Store} :
    s.refusal? (ofChunk chunk policy model) = chunk.operations.findSome? (s.conflict? policy) := by
  rw [Store.refusal?_eq_findSome?, operations_ofChunk, ← List.head?_filterMap,
    ← List.head?_filterMap]
  congr 1
  exact List.filterMap_congr fun op member => conflict?_ofChunk member

end WriteBody

namespace Service

/-- The service reads the operations of a chunk in its request. -/
theorem operations_of_readBody {t : Transaction} {chunk : Chunk} {b : WriteBody}
    (read : readBody (t.request chunk) = .ok b) : b.operations = chunk.operations := by
  rw [readBody_request] at read
  rw [← Except.ok.inj read, WriteBody.operations_ofChunk]

/-- The service judges the operations of a chunk together. -/
theorem verdict_request (t : Transaction) (chunk : Chunk) {limit : ℕ}
    {stores : Table String Store} {store : Store} (named : t.storeId ≠ "")
    (noSlash : '/' ∉ t.storeId.toList) (found : stores.find? t.storeId = some store)
    (nonempty : chunk.operations ≠ []) (fits : chunk.operations.length ≤ limit) :
    verdict limit stores (t.request chunk) =
      (store.performTogether t.policy chunk.operations).map (stores.insert t.storeId) := by
  rw [verdict_eq (route?_request named noSlash) (readBody_request t chunk), found]
  dsimp only
  rw [WriteBody.refusal?_ofChunk]
  generalize made : WriteBody.ofChunk chunk t.policy t.call.authorizationModelId = b
  have operations : b.operations = chunk.operations := made ▸ WriteBody.operations_ofChunk
  have refused : bodyRefusal? limit b =
      (repeatedKey? [] (chunk.operations.map Operation.key)).map .repeatedKey := by
    rw [bodyRefusal?, b.tupleCount_eq, b.keys_eq, operations, if_neg (by simpa using nonempty),
      if_neg (by omega)]
  rw [refused, Store.performTogether]
  cases repeated : repeatedKey? [] (chunk.operations.map Operation.key) with
  | some key => rfl
  | none =>
    dsimp only [Option.map_none]
    cases chunk.operations.findSome? (store.conflict? t.policy) with
    | some e => rfl
    | none =>
      have distinct : b.keys.Nodup := by
        rw [WriteBody.keys_eq, operations]
        exact (repeatedKey?_eq_none_iff.mp repeated).1
      simp only [Except.map, Store.apply_eq_performAll distinct, operations]

/-- A chunk that is accepted is neither empty nor too long, names no key twice, and is in no
conflict with its store, and then its operations are done. The policy has a say in the conflicts
alone. -/
theorem verdict_request_eq_ok_iff {t : Transaction} {chunk : Chunk} {limit : ℕ}
    {stores stores' : Table String Store} :
    verdict limit stores (t.request chunk) = .ok stores' ↔
      ∃ storeId store, route? (t.request chunk) = some storeId ∧
        stores.find? storeId = some store ∧ 1 ≤ chunk.operations.length ∧
        chunk.operations.length ≤ limit ∧ (chunk.operations.map Operation.key).Nodup ∧
        (∀ op ∈ chunk.operations, store.conflict? t.policy op = none) ∧
        stores' = stores.insert storeId (store.performAll chunk.operations) := by
  have accepted {b : WriteBody} (read : readBody (t.request chunk) = .ok b) {store : Store} :
      bodyRefusal? limit b = none ∧ store.refusal? b = none ↔
        1 ≤ chunk.operations.length ∧ chunk.operations.length ≤ limit ∧
          (chunk.operations.map Operation.key).Nodup ∧
          ∀ op ∈ chunk.operations, store.conflict? t.policy op = none := by
    rw [readBody_request] at read
    obtain rfl := Except.ok.inj read
    rw [bodyRefusal?_eq_none_iff, WriteBody.refusal?_ofChunk, List.findSome?_eq_none_iff,
      WriteBody.tupleCount_eq, WriteBody.keys_eq, WriteBody.operations_ofChunk]
    simp only [and_assoc]
  rw [verdict_eq_ok_iff]
  constructor
  · rintro ⟨storeId, b, store, route, read, fits, found, unrefused, rfl⟩
    obtain ⟨nonempty, short, distinct, free⟩ := (accepted read).mp ⟨fits, unrefused⟩
    refine ⟨storeId, store, route, found, nonempty, short, distinct, free, ?_⟩
    rw [Store.apply_eq_performAll (nodup_of_bodyRefusal?_eq_none fits), operations_of_readBody read]
  · rintro ⟨storeId, store, route, found, nonempty, short, distinct, free, rfl⟩
    have read := readBody_request t chunk
    obtain ⟨fits, unrefused⟩ := (accepted read).mpr ⟨nonempty, short, distinct, free⟩
    refine ⟨storeId, _, store, route, read, fits, found, unrefused, ?_⟩
    rw [Store.apply_eq_performAll (nodup_of_bodyRefusal?_eq_none fits), operations_of_readBody read]

end Service

/-! ## Whole transactions -/

namespace Transaction

/-- Over the service, a chunk succeeds or fails as the service responds to its request. -/
theorem sendChunk_service (t : Transaction) (chunk : Chunk) {w : World Service}
    (running : w.isStopped t.watch = false) :
    let answer := w.far.handle (t.request chunk)
    ∃ w', w'.far = answer.2.1 ∧ w'.cancelled = w.cancelled ∧
      t.sendChunk Service.link chunk w =
        (if answer.1.isSuccess then none
          else some (.ofResponse (some answer.1.status) answer.1.body (some answer.1.headers)
            t.call),
        w') := by
  intro answer
  obtain ⟨w₁, answered, far, cancelled⟩ := Service.link_answers t.watch (t.request chunk) w
  cases success : answer.1.isSuccess with
  | true =>
    refine ⟨w₁.say .debug .transaction "chunk applied" (operation t.call ++
      [("chunk_index", Json.nat chunk.index), ("tuples", Json.nat chunk.size)]), far, cancelled, ?_⟩
    have accepted : (Reply.response answer.1).result t.call = .ok answer.1 := by
      simp [Reply.result, success]
    simp only [sendChunk, running, answered, answer] at accepted ⊢
    simp [accepted]
  | false =>
    refine ⟨w₁, far, cancelled, ?_⟩
    have rejected : (Reply.response answer.1).result t.call = .error
        (.ofResponse (some answer.1.status) answer.1.body (some answer.1.headers) t.call) := by
      simp [Reply.result, success]
    simp only [sendChunk, running, answered, answer] at rejected ⊢
    simp [rejected]

variable {limit : ChunkLimit} {cs : ChangeSet} {policy : ConflictPolicy} {call : CallMetadata}
  {watch : Watch} {w₀ : World Service} {storeId : String} {store : Store}

/-- The service has done the operations of the first windows of a change set and nothing else, and
nothing is wrong with them. -/
structure Progress (limit : ChunkLimit) (cs : ChangeSet) (policy : ConflictPolicy)
    (storeId : String) (store : Store) (w₀ : World Service) (i : ℕ) (far : Service)
    (flag : Bool) : Prop where
  flag_eq : flag = w₀.cancelled
  limit_eq : far.limit = w₀.far.limit
  calls_eq : far.calls = w₀.far.calls + i
  find?_eq : far.stores.find? storeId =
    some (store.performAll (cs.operations.take (i * limit.tuples)))
  others : ∀ other, other ≠ storeId → far.stores.find? other = w₀.far.stores.find? other
  free : ∀ p < i * limit.tuples, ¬ limit.IsBad policy store cs.operations p

section

variable {i : ℕ} {far : Service} {flag : Bool}

variable (call watch) in
/-- The request of the next window is accepted and makes progress, or it is refused because of the
first bad operation. -/
theorem Progress.handle (h : Progress limit cs policy storeId store w₀ i far flag)
    (named : storeId ≠ "") (noSlash : '/' ∉ storeId.toList)
    (fits : limit.tuples ≤ w₀.far.limit) (inside : i < cs.chunkCount limit) :
    let answer := far.handle (request ⟨storeId, policy, call, watch⟩ (cs.chunkAt limit i))
    (∃ headers, answer.1 = ⟨200, .obj [], headers⟩ ∧
        Progress limit cs policy storeId store w₀ (i + 1) answer.2.1 flag) ∨
      ∃ e headers p, answer.1 = Service.refuse e headers ∧
        answer.2.1 = { far with calls := far.calls + 1 } ∧ p / limit.tuples = i ∧
        limit.IsBad policy store cs.operations p ∧
        (∀ q < p, ¬ limit.IsBad policy store cs.operations q) ∧
        limit.Explains policy store cs.operations e p := by
  intro answer
  have window := cs.operations_chunkAt limit i
  have nonempty : (cs.chunkAt limit i).operations ≠ [] := by
    rw [← List.length_pos_iff, Chunk.length_operations]
    exact cs.size_chunkAt_pos limit inside
  have short : (cs.chunkAt limit i).operations.length ≤ far.limit := by
    rw [Chunk.length_operations, h.limit_eq]
    exact (cs.size_chunkAt_le limit i).trans fits
  -- The chunk is neither empty nor too long, so it is judged by its keys and its conflicts alone.
  have verdict := Service.verdict_request ⟨storeId, policy, call, watch⟩ (cs.chunkAt limit i)
    named noSlash h.find?_eq nonempty short
  rw [window] at verdict
  cases admitted : (store.performAll (cs.operations.take (i * limit.tuples))).performTogether policy
      (limit.window cs.operations i) with
  | ok s' =>
    rw [admitted] at verdict
    obtain ⟨headers, response, after⟩ := Service.handle_of_verdict_ok verdict
    obtain ⟨rfl, free⟩ := ChunkLimit.window_accepted admitted
    refine .inl ⟨headers, response, ?_⟩
    simp only [answer, after]
    refine ⟨h.flag_eq, h.limit_eq, by simp [h.calls_eq]; omega, ?_, ?_, ?_⟩
    · rw [Table.find?_insert, if_pos rfl]
    · intro other different
      rw [Table.find?_insert, if_neg different, h.others other different]
    · intro p before
      rcases lt_or_ge p (i * limit.tuples) with earlier | here
      · exact h.free p earlier
      · exact free p (Nat.div_eq_of_lt_le here before)
  | error e =>
    rw [admitted] at verdict
    obtain ⟨headers, response, after⟩ := Service.handle_of_verdict_error verdict
    obtain ⟨p, here, bad, first, explained⟩ := ChunkLimit.window_refused admitted h.free
    exact .inr ⟨e, headers, p, response, after, here, bad, first, explained⟩

variable {u u' : World Service}

/-- A chunk that succeeds makes progress. -/
theorem Progress.next (h : Progress limit cs policy storeId store w₀ i u.far u.cancelled)
    (named : storeId ≠ "") (noSlash : '/' ∉ storeId.toList)
    (fits : limit.tuples ≤ w₀.far.limit) (running : w₀.isStopped watch = false)
    (inside : i < cs.chunkCount limit)
    (succeeded : sendChunk ⟨storeId, policy, call, watch⟩ Service.link (cs.chunkAt limit i) u =
      (none, u')) : Progress limit cs policy storeId store w₀ (i + 1) u'.far u'.cancelled := by
  obtain ⟨u₁, far, flag, sent⟩ :=
    sendChunk_service ⟨storeId, policy, call, watch⟩ (cs.chunkAt limit i)
      ((World.isStopped_congr h.flag_eq watch).trans running)
  obtain ⟨success, rfl⟩ := Prod.mk.inj (sent.symm.trans succeeded)
  rw [far, flag]
  rcases h.handle call watch named noSlash fits inside with
    ⟨headers, response, next⟩ | ⟨e, headers, p, response, -⟩
  · exact next
  · simp only [response, Service.isSuccess_refuse] at success
    simp at success

/-- A chunk that fails has no effect, and its failure explains the first bad operation. -/
theorem Progress.stop {failure : Failure}
    (h : Progress limit cs policy storeId store w₀ i u.far u.cancelled)
    (named : storeId ≠ "") (noSlash : '/' ∉ storeId.toList)
    (fits : limit.tuples ≤ w₀.far.limit) (running : w₀.isStopped watch = false)
    (inside : i < cs.chunkCount limit)
    (failed : sendChunk ⟨storeId, policy, call, watch⟩ Service.link (cs.chunkAt limit i) u =
      (some failure, u')) :
    u'.far = { u.far with calls := u.far.calls + 1 } ∧ ∃ e headers p,
      failure = .ofResponse (some e.status) e.body (some headers) call ∧ p / limit.tuples = i ∧
      limit.IsBad policy store cs.operations p ∧
      (∀ q < p, ¬ limit.IsBad policy store cs.operations q) ∧
      limit.Explains policy store cs.operations e p := by
  obtain ⟨u₁, far, -, sent⟩ :=
    sendChunk_service ⟨storeId, policy, call, watch⟩ (cs.chunkAt limit i)
      ((World.isStopped_congr h.flag_eq watch).trans running)
  obtain ⟨rejected, rfl⟩ := Prod.mk.inj (sent.symm.trans failed)
  rcases h.handle call watch named noSlash fits inside with
    ⟨headers, response, -⟩ | ⟨e, headers, p, response, kept, here, bad, first, explained⟩
  · simp [response, Response.isSuccess] at rejected
  · simp only [response, Service.isSuccess_refuse] at rejected
    have cause := Option.some.inj ((if_neg Bool.false_ne_true).symm.trans rejected)
    exact ⟨far.trans kept, e, headers, p, cause.symm, here, bad, first, explained⟩

end

variable (limit cs policy watch) in
/-- Over the service, a transaction without bad operations does all its operations one after the
other. Otherwise it fails at the window of the first bad one, after it has done the operations of
the windows before. No other store is touched. -/
theorem execute_service (w : World Service) (given : call.storeId = some storeId)
    (notBlank : Text.isBlank storeId = false) (noSlash : '/' ∉ storeId.toList)
    (found : w.far.stores.find? storeId = some store) (fits : limit.tuples ≤ w.far.limit)
    (running : w.isStopped watch = false) :
    let ops := cs.operations
    let result := execute Service.link limit cs policy call watch w
    let after := result.2.far
    ((∀ p, ¬ limit.IsBad policy store ops p) →
      result.1 = .success ⟨cs.size ⌈/⌉ limit.tuples, cs.writes.length, cs.deletes.length⟩ ∧
        after.stores.find? storeId = some (store.performAll ops) ∧
        after.calls = w.far.calls + cs.size ⌈/⌉ limit.tuples) ∧
    (∀ p, limit.IsBad policy store ops p → (∀ q < p, ¬ limit.IsBad policy store ops q) →
      (∃ e headers, result.1 = .failed
          (.ofResponse (some e.status) e.body (some headers) call) (p / limit.tuples) ∧
        limit.Explains policy store ops e p) ∧
        after.stores.find? storeId =
          some (store.performAll (ops.take (p / limit.tuples * limit.tuples))) ∧
        after.calls = w.far.calls + (p / limit.tuples + 1)) ∧
    ∀ other, other ≠ storeId → after.stores.find? other = w.far.stores.find? other := by
  intro ops result after
  let t : Transaction := ⟨storeId, policy, call, watch⟩
  let P := Progress limit cs policy storeId store w
  have named : storeId ≠ "" := by
    rintro rfl
    exact absurd notBlank (by decide)
  have start : P 0 w.far w.cancelled :=
    ⟨rfl, rfl, rfl, by simpa [Store.performAll] using found, fun _ _ => rfl, by simp⟩
  have preserved : t.Preserved Service.link (cs.split limit) P := by
    intro i chunk u u' standing progress succeeded
    obtain ⟨inside, rfl⟩ := (cs.getElem?_split_eq_some limit).mp standing
    exact progress.next named noSlash fits running inside succeeded
  rcases execute_cases w (storeId?_eq_some_iff.mpr ⟨given, notBlank⟩) preserved start with
    ⟨ended, progress⟩ | ⟨i, w₁, w₂, failure, inside, progress, failed, ended, far, -⟩
  · -- Every operation is in some window, so nothing is wrong at all.
    have all : ops.length ≤ cs.chunkCount limit * limit.tuples := by
      rw [cs.length_operations]
      exact cs.size_le_chunkCount_mul limit
    have done := progress.find?_eq
    rw [List.take_of_length_le all] at done
    refine ⟨fun _ => ?_, fun p bad => ?_, progress.others⟩
    · rw [← cs.chunkCount_eq_ceilDiv]
      exact ⟨ended, done, progress.calls_eq⟩
    · exact absurd bad (progress.free p (bad.lt_length.trans_le all))
  · obtain ⟨kept, e, headers, p, rfl, rfl, bad, first, explained⟩ :=
      progress.stop named noSlash fits running inside failed
    have moved : after = { w₁.far with calls := w₁.far.calls + 1 } := far.trans kept
    rw [moved]
    refine ⟨fun free => absurd bad (free p), fun q badHere least => ?_, progress.others⟩
    obtain rfl : p = q := first_unique bad first badHere least
    exact ⟨⟨e, headers, ended, explained⟩, progress.find?_eq,
      by simp only [progress.calls_eq]; omega⟩

/-- In an empty store the write of a handover is done and its delete is refused. -/
theorem execute_service_handover :
    let result := execute Service.link ⟨1, by decide⟩ ChangeSet.handover .strict
      { storeId := some "s" } .token ⟨Service.createStore {} "s", false, []⟩
    result.2.far.stores.find? "s" =
        some (Store.empty.performAll (ChangeSet.handover.operations.take 1)) ∧
      result.2.far.calls = 2 := by
  intro result
  have given : CallMetadata.storeId { storeId := some "s" } = some "s" := rfl
  have found : (Service.createStore {} "s").stores.find? "s" = some Store.empty := rfl
  have run := (execute_service ⟨1, by decide⟩ ChangeSet.handover .strict .token
    ⟨Service.createStore {} "s", false, []⟩ given (by decide) (by decide) found (by decide)
    rfl).2.1 1
  have misses : ChunkLimit.IsBad ⟨1, by decide⟩ .strict Store.empty
      ChangeSet.handover.operations 1 := .inr ⟨.delete (ChangeSet.reader "bob").key, rfl, rfl, rfl⟩
  have first : ¬ ChunkLimit.IsBad ⟨1, by decide⟩ .strict Store.empty
      ChangeSet.handover.operations 0 := by
    rintro (⟨-, -, q, earlier, -⟩ | ⟨op, found, conflicts⟩)
    · exact absurd earlier (Nat.not_lt_zero q)
    · obtain rfl := Option.some.inj found
      exact Store.conflict?_eq_none_iff.mp rfl conflicts
  have failed := run misses (by simpa using first)
  exact failed.2

end Transaction

end TupleClient
