import TupleClient.Proofs.Relaxation

/-!
# Strict transactions that are repeated

What a strict transaction has done is not done again unnoticed. None of its later chunks undoes its
first operation, so the first operation of the same change set meets what it left itself: the second
transaction is refused at its first chunk.

## Main results

* `Store.exists_conflict?_of_done`, `Service.verdict_of_idle` — an operation, and a chunk, that has
  nothing left to do is refused by the strict policy
* `Transaction.execute_of_verdict_error` — a transaction whose first request is refused
* `Transaction.execute_strict_again` — a strict transaction that is run again from its end
-/

namespace TupleClient

/-! ## Operations in conflict -/

namespace Store

variable {s : Store} {op : Operation} {policy : ConflictPolicy}

/-- Every conflict of writes has one status, and every conflict of deletes another. -/
theorem status_of_conflict? {e : Refusal} (refused : s.conflict? policy op = some e) :
    e.status = (if op.isWrite then 409 else 404) ∧
      e.code = "write_failed_due_to_invalid_input" := by
  cases op with
  | write t =>
    rw [conflict?, writeRefusal?] at refused
    split at refused
    · simp at refused
    · split at refused
      · obtain rfl := Option.some.inj refused
        exact ⟨rfl, rfl⟩
      · split at refused
        · obtain rfl := Option.some.inj refused
          exact ⟨rfl, rfl⟩
        · simp at refused
  | delete key =>
    rw [conflict?, deleteRefusal?] at refused
    split at refused
    · obtain rfl := Option.some.inj refused
      exact ⟨rfl, rfl⟩
    · simp at refused

/-- An operation whose outcome is there already is in conflict under the strict policy. -/
theorem exists_conflict?_of_done {found : Option (Option Condition)}
    (done : s.find? op.key = op.leaves found) : ∃ e, s.conflict? .strict op = some e := by
  rw [← Option.ne_none_iff_exists', Ne, conflict?_strict_eq_none_iff, done, op.isSome_leaves]
  simp

end Store

/-- The failure that the response to a refused request stands for has the code of the refusal. -/
theorem Failure.code_ofResponse_refusal (e : Refusal) (headers : Option Headers)
    (call : CallMetadata) :
    (ofResponse (some e.status) e.body headers call).code = some e.code := by
  have named : e.code.isEmpty = false := by cases e <;> simp [Refusal.code]
  simp [ofResponse, reported, Refusal.body, Fields.find?, someText?, Json.text?, named]

/-! ## Chunks that have nothing left to do -/

namespace Service

variable {t : Transaction} {chunk : Chunk} {limit : ℕ} {stores stores' : Table String Store}
  {p : ConflictPolicy}

/-- Where one policy accepts a chunk, another policy has a say in the conflicts alone. -/
theorem verdict_request_of_accepted
    (accepted : verdict limit stores (Transaction.request { t with policy := p } chunk) =
      .ok stores') :
    ∃ storeId store, stores.find? storeId = some store ∧
      (chunk.operations.map Operation.key).Nodup ∧
      stores' = stores.insert storeId (store.performAll chunk.operations) ∧
      verdict limit stores (t.request chunk) =
        match chunk.operations.findSome? (store.conflict? t.policy) with
        | some e => .error e
        | none => .ok stores' := by
  obtain ⟨storeId, store, route, found, nonempty, fits, distinct, -, rfl⟩ :=
    verdict_request_eq_ok_iff.mp accepted
  -- The address of a request does not depend on the policy.
  have sameRoute : route? (t.request chunk) = some storeId := route
  refine ⟨storeId, store, found, distinct, rfl, ?_⟩
  cases conflict : chunk.operations.findSome? (store.conflict? t.policy) with
  | none =>
    exact verdict_request_eq_ok_iff.mpr ⟨storeId, store, sameRoute, found, nonempty, fits, distinct,
      List.findSome?_eq_none_iff.mp conflict, rfl⟩
  | some e =>
    have unrefused : bodyRefusal? limit
        (WriteBody.ofChunk chunk t.policy t.call.authorizationModelId) = none := by
      rw [bodyRefusal?_eq_none_iff, WriteBody.tupleCount_eq, WriteBody.keys_eq,
        WriteBody.operations_ofChunk]
      exact ⟨nonempty, fits, distinct⟩
    rw [verdict_eq sameRoute (readBody_request t chunk), unrefused, found]
    simp only [WriteBody.refusal?_ofChunk, conflict]

/-- A chunk that some policy accepts without any effect is refused by the strict policy, for its
first operation. -/
theorem verdict_of_idle {op : Operation} {rest : List Operation} (strict : t.policy = .strict)
    (first : chunk.operations = op :: rest)
    (idle : verdict limit stores (Transaction.request { t with policy := p } chunk) = .ok stores) :
    ∃ e, verdict limit stores (t.request chunk) = .error e ∧
      e.status = (if op.isWrite then 409 else 404) ∧
      e.code = "write_failed_due_to_invalid_input" := by
  obtain ⟨storeId, store, found, distinct, same, judged⟩ := verdict_request_of_accepted idle
  have unchanged : store.performAll chunk.operations = store :=
    Table.eq_of_insert_eq_self same.symm found
  have member : op ∈ chunk.operations := first ▸ List.mem_cons_self
  have done : store.find? op.key = op.leaves (store.find? op.key) := by
    have left := Store.find?_performAll (s := store) distinct member
    rwa [unchanged] at left
  obtain ⟨e, conflict⟩ := Store.exists_conflict?_of_done done
  rw [first, List.findSome?_cons, strict, conflict] at judged
  exact ⟨e, judged, Store.status_of_conflict? conflict⟩

end Service

/-! ## Whole transactions -/

namespace ChangeSet

variable {cs : ChangeSet}

/-- The first chunk of a change set that is not empty starts with a write, if there is one. -/
theorem exists_first (limit : ChunkLimit) (nonempty : cs.size ≠ 0) :
    ∃ op rest, (cs.chunkAt limit 0).operations = op :: rest ∧ op.isWrite = !cs.writes.isEmpty := by
  obtain ⟨others, width⟩ := Nat.exists_eq_succ_of_ne_zero limit.positive.ne'
  rw [operations_chunkAt, ChunkLimit.window, Nat.zero_mul, List.drop_zero, width, operations]
  cases written : cs.writes with
  | cons t rest => exact ⟨.write t, _, rfl, rfl⟩
  | nil =>
    cases deleted : cs.deletes with
    | cons t rest => exact ⟨.delete t.key, _, rfl, rfl⟩
    | nil => simp [size, written, deleted] at nonempty

end ChangeSet

namespace Transaction

variable {limit : ChunkLimit} {cs : ChangeSet} {policy : ConflictPolicy} {call : CallMetadata}
  {watch : Watch} {storeId : String}

/-- A transaction whose first request is refused fails at its first chunk, after this request. -/
theorem execute_of_verdict_error {e : Refusal} (w : World Service)
    (stored : storeId? call = some storeId) (running : w.isStopped watch = false)
    (nonempty : cs.size ≠ 0)
    (refused : Service.verdict w.far.limit w.far.stores
      (request ⟨storeId, policy, call, watch⟩ (cs.chunkAt limit 0)) = .error e) :
    let result := execute Service.link limit cs policy call watch w
    (∃ headers, result.1 =
        .failed (.ofResponse (some e.status) e.body (some headers) call) 0) ∧
      result.2.far = { w.far with calls := w.far.calls + 1 } := by
  intro result
  obtain ⟨headers, response, after⟩ := Service.handle_of_verdict_error refused
  let t : Transaction := ⟨storeId, policy, call, watch⟩
  have stuck : w.far.serve (t.request (cs.chunkAt limit 0)) = none := by
    rw [Service.serve_eq_ite, response, Service.isSuccess_refuse, if_neg Bool.false_ne_true]
  have notServed {j : ℕ} (later : 0 < j) :
      w.far.serveAll (firstRequests limit cs t j) = none :=
    serveAll_eq_none (i := 0) rfl stuck later
  rcases execute_serve_cases w stored running with
    ⟨ran, -⟩ | ⟨k, -, reached, before, -, ended, left⟩
  · rw [notServed (cs.chunkCount_pos limit nonempty)] at ran
    simp at ran
  · obtain rfl | later := Nat.eq_zero_or_pos k
    · obtain rfl : w.far = reached := Option.some.inj before
      rw [response] at ended
      exact ⟨⟨headers, ended⟩, left.trans after⟩
    · rw [notServed later] at before
      simp at before

/-- If a strict transaction with something to send succeeds, it fails when it is run again from its
end: the first request is refused, for a tuple that is there already or, where nothing is written,
for one that is gone. Nothing changes. -/
theorem execute_strict_again (limit : ChunkLimit) (cs : ChangeSet) (call : CallMetadata)
    (watch : Watch) (w : World Service) (summary : Summary) (nonempty : cs.size ≠ 0)
    (succeeded : (execute Service.link limit cs .strict call watch w).1 = .success summary) :
    let first := execute Service.link limit cs .strict call watch w
    first.2.isStopped watch = false ∧
    ∀ now : World Service, now.far.uncounted = first.2.far.uncounted →
      now.isStopped watch = false →
      let again := execute Service.link limit cs .strict call watch now
      again.2.far = { now.far with calls := now.far.calls + 1 } ∧
      ∃ failure, again.1 = .failed failure 0 ∧
        failure.code = some "write_failed_due_to_invalid_input" ∧
        (cs.writes ≠ [] → failure.kind = .validation ∧ failure.status = some 409) ∧
        (cs.writes = [] → failure.kind = .notFound ∧ failure.status = some 404) := by
  intro first
  obtain ⟨storeId, stored, running, ran, -, token⟩ := serveAll_of_success nonempty succeeded
  refine ⟨(World.isStopped_congr token watch).trans running, fun now same running' => ?_⟩
  intro again
  -- A policy that passes over conflicts leads to the same end, where it has nothing left to do.
  let t : Transaction := ⟨storeId, .strict, call, watch⟩
  have lenient := serveAll_of_relaxedTo (t := t) (ConflictPolicy.strict_relaxedTo .idempotent) ran
  have idle := Service.idle_of_serveAll (harmonious_firstRequests rfl _) lenient _
    (List.mem_map_of_mem (List.mem_range.mpr (cs.chunkCount_pos limit nonempty)))
  obtain ⟨op, rest, start, kind⟩ := cs.exists_first limit nonempty
  obtain ⟨e, refused, status, code⟩ := Service.verdict_of_idle (t := t) rfl start idle
  obtain ⟨sameStores, sameLimit⟩ := Service.uncounted_eq_iff.mp same
  rw [← sameStores, ← sameLimit] at refused
  obtain ⟨⟨headers, failed⟩, kept⟩ := execute_of_verdict_error now stored running' nonempty refused
  refine ⟨kept, _, failed, ?_, fun written => ?_, fun unwritten => ?_⟩
  · rw [Failure.code_ofResponse_refusal, code]
  · have conflict : e.status = 409 := by simp [status, kind, written]
    rw [conflict]
    exact ⟨rfl, rfl⟩
  · have missing : e.status = 404 := by simp [status, kind, unwritten]
    rw [missing]
    exact ⟨rfl, rfl⟩

/-- A handover is refused the second time for its write, and a removal for its delete. -/
theorem execute_strict_again_handover :
    let removal : ChangeSet :=
      ⟨[], [ChangeSet.reader "bob"], (ChangeSet.inputDefect?_eq_none_iff _ _).mp (by decide)⟩
    let s := (Service.createStore {} "s").seed "s" (ChangeSet.reader "bob")
    let execute (cs : ChangeSet) (far : Service) :=
      execute Service.link ⟨1, by decide⟩ cs .strict { storeId := some "s" } .token ⟨far, false, []⟩
    let again (cs : ChangeSet) := execute cs (execute cs s).2.far
    (execute ChangeSet.handover s).1 = .success ⟨2, 1, 1⟩ ∧
      (execute removal s).1 = .success ⟨1, 0, 1⟩ ∧
      (∃ failure, (again ChangeSet.handover).1 = .failed failure 0 ∧
        failure.kind = .validation ∧ failure.status = some 409) ∧
      (∃ failure, (again removal).1 = .failed failure 0 ∧
        failure.kind = .notFound ∧ failure.status = some 404) ∧
      (again removal).2.far.stores = (execute removal s).2.far.stores ∧
      (again removal).2.far.calls = 2 := by
  intro removal s execute again
  have handedOver : (execute ChangeSet.handover s).1 = .success ⟨2, 1, 1⟩ := by decide +kernel
  have removed : (execute removal s).1 = .success ⟨1, 0, 1⟩ := by decide +kernel
  have rerun (cs : ChangeSet) (summary : Summary) (nonempty : cs.size ≠ 0)
      (succeeded : (execute cs s).1 = .success summary) :=
    (execute_strict_again ⟨1, by decide⟩ cs { storeId := some "s" } .token ⟨s, false, []⟩ summary
      nonempty succeeded).2 ⟨(execute cs s).2.far, false, []⟩ rfl rfl
  obtain ⟨-, failure, failed, -, written, -⟩ := rerun _ _ (by decide) handedOver
  obtain ⟨kept, failure', failed', -, -, unwritten⟩ := rerun _ _ (by decide) removed
  have once : (execute removal s).2.far.calls = 1 := by decide +kernel
  refine ⟨handedOver, removed, ⟨failure, failed, written (by decide)⟩,
    ⟨failure', failed', unwritten rfl⟩, ?_, ?_⟩
  · exact (congrArg Service.stores kept :)
  · exact (congrArg Service.calls kept).trans (congrArg (· + 1) once)

end Transaction

end TupleClient
