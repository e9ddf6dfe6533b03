import TupleClient.Proofs.Batching
import TupleClient.Proofs.Footprint
import TupleClient.Proofs.LossyNetwork

/-!
# Transactions that converge

What a transaction that ignores conflicts has done stays done. Its later chunks may name the same
keys again, but none of them deletes what another one writes. So a transaction that succeeds may be
run again from any point on its way: it passes over what is done already and ends where it ended
before.

## Main definitions

* `Operation.SameKind` — two writes or two deletes
* `Store.Idle` — a body has nothing left to do
* `Service.uncounted` — a service without the number of requests that it received, and without
  their identifiers
* `Service.Harmonious` — no request of a list undoes what another one does

## Main results

* `Store.Idle.apply`, `Service.idle_of_serveAll` — what is done stays done, after one request and
  after all of them
* `Service.serveAll_again` — requests that are sent again from a point on their way
* `Transaction.execute_serve_cases` — a transaction succeeds if the service serves all its requests,
  and otherwise fails at the first one that is not served
* `Transaction.serveAll_of_success`, `Transaction.serveAll_of_failed` — the requests served of a
  transaction that succeeds, and of one that fails
* `Transaction.execute_again` — a transaction that is run again from a point on its way
-/

namespace TupleClient

/-! ## Operations that are done -/

namespace Operation

/-- Two operations are both writes or both deletes. -/
def SameKind : Operation → Operation → Prop
  | write _, write _ | delete _, delete _ => True
  | _, _ => False

variable {op other : Operation} {found : Option (Option Condition)}

/-- What an operation leaves is what another one of its kind leaves as well. -/
theorem SameKind.leaves_eq (h : op.SameKind other) (done : found = op.leaves found) :
    other.leaves found = found := by
  cases op with
  | write t =>
    cases other with
    | delete key => exact h.elim
    | write u =>
      rw [done]
      simp [leaves]
  | delete key =>
    cases other with
    | write u => exact h.elim
    | delete key' => exact done.symm

end Operation

/-- No key of a change set is both written and deleted. -/
theorem ChangeSet.sameKind (cs : ChangeSet) {op other : Operation} (member : op ∈ cs.operations)
    (member' : other ∈ cs.operations) (same : op.key = other.key) : op.SameKind other := by
  simp only [operations, List.mem_append, List.mem_map] at member member'
  rcases member with ⟨w, written, rfl⟩ | ⟨d, deleted, rfl⟩ <;>
    rcases member' with ⟨w', written', rfl⟩ | ⟨d', deleted', rfl⟩
  · trivial
  · exact (cs.accepted.disjoint w written d' deleted' same).elim
  · exact (cs.accepted.disjoint w' written' d deleted same.symm).elim
  · trivial

namespace Store

variable {s : Store} {b c : WriteBody}

/-- A body has nothing left to do: it is not refused, and what its operations leave is there. -/
structure Idle (s : Store) (b : WriteBody) : Prop where
  accepted : s.refusal? b = none
  done : ∀ op ∈ b.operations, s.find? op.key = op.leaves (s.find? op.key)

/-- Exactly an idle body is accepted and changes nothing. -/
theorem idle_iff (distinct : b.keys.Nodup) :
    s.Idle b ↔ s.refusal? b = none ∧ s.apply b = s := by
  rw [apply_eq_performAll distinct]
  constructor
  · intro h
    exact ⟨h.accepted, performAll_eq_self fun op member => perform_eq_self (h.done op member)⟩
  · rintro ⟨accepted, same⟩
    refine ⟨accepted, fun op member => ?_⟩
    have left := find?_performAll (s := s) (b.keys_eq ▸ distinct) member
    rwa [same] at left

/-- A body that is idle stays idle after another one that undoes nothing of it. -/
theorem Idle.apply (h : s.Idle b) (distinct : c.keys.Nodup)
    (kinds : ∀ op ∈ b.operations, ∀ other ∈ c.operations, op.key = other.key →
      op.SameKind other) : (s.apply c).Idle b := by
  -- Where `c` names a key of `b`, its operation finds there what it would leave.
  have same : ∀ op ∈ b.operations, (s.apply c).find? op.key = s.find? op.key := by
    intro op member
    by_cases own : op.key ∈ c.keys
    · rw [c.keys_eq] at own distinct
      obtain ⟨other, performed, sameKey⟩ := List.mem_map.mp own
      have kind := kinds op member other performed sameKey.symm
      calc (s.apply c).find? op.key
          = (s.performAll c.operations).find? other.key := by
            rw [apply_eq_performAll (c.keys_eq ▸ distinct), sameKey]
        _ = other.leaves (s.find? op.key) := by rw [find?_performAll distinct performed, sameKey]
        _ = s.find? op.key := kind.leaves_eq (h.done op member)
    · exact find?_apply_of_notMem distinct own
  refine ⟨?_, fun op member => ?_⟩
  · rw [← h.accepted]
    refine refusal?_congr fun key member => ?_
    rw [b.keys_eq] at member
    obtain ⟨op, performed, rfl⟩ := List.mem_map.mp member
    exact same op performed
  · rw [same op member]
    exact h.done op member

end Store

/-! ## Requests that are sent again -/

namespace Service

/-- A service without the number of requests that it received, and without their identifiers. -/
def uncounted (s : Service) : Service := { stores := s.stores, limit := s.limit }

variable {s s' now a b a' : Service} {r r' : Request} {requests more : List Request}
  {limit : ℕ} {stores stores' : Table String Store}

theorem uncounted_eq_iff : a.uncounted = b.uncounted ↔ a.stores = b.stores ∧ a.limit = b.limit := by
  simp [uncounted]

theorem serve_eq_some_iff :
    s.serve r = some s' ↔ ∃ stores, verdict s.limit s.stores r = .ok stores ∧
      s' = { s with stores, calls := s.calls + 1 } := by
  cases judged : verdict s.limit s.stores r with
  | ok stores => simp [serve_of_verdict_ok judged, eq_comm]
  | error e =>
    obtain ⟨headers, response, -⟩ := handle_of_verdict_error judged
    simp [serve, response, status_refuse_ne]

/-- A request is served if its response reports success. -/
theorem serve_eq_ite (s : Service) (r : Request) :
    s.serve r = if (s.handle r).1.isSuccess then some (s.after r) else none := by
  cases judged : verdict s.limit s.stores r with
  | ok stores =>
    obtain ⟨headers, response, after⟩ := handle_of_verdict_ok judged
    rw [serve_of_verdict_ok judged, Service.after, after, response]
    rfl
  | error e =>
    obtain ⟨headers, response, -⟩ := handle_of_verdict_error judged
    simp [serve, response, status_refuse_ne, isSuccess_refuse]

theorem serveAll_append (s : Service) (requests more : List Request) :
    s.serveAll (requests ++ more) = (s.serveAll requests).bind fun after => after.serveAll more :=
  List.foldlM_append

theorem serveAll_cons (s : Service) (r : Request) (rest : List Request) :
    s.serveAll (r :: rest) = (s.serve r).bind fun after => after.serveAll rest := rfl

/-- Whether requests are served depends neither on the number of those before them nor on their
identifiers. -/
theorem serveAll_congr (same : a.uncounted = b.uncounted) (ran : a.serveAll requests = some a') :
    ∃ b', b.serveAll requests = some b' ∧ b'.uncounted = a'.uncounted := by
  induction requests generalizing a b with
  | nil =>
    obtain rfl := Option.some.inj ran
    exact ⟨b, rfl, same.symm⟩
  | cons r rest ih =>
    rw [serveAll_cons, Option.bind_eq_some_iff] at ran
    obtain ⟨first, served, others⟩ := ran
    obtain ⟨stores, accepted, rfl⟩ := serve_eq_some_iff.mp served
    obtain ⟨sameStores, sameLimit⟩ := uncounted_eq_iff.mp same
    rw [sameStores, sameLimit] at accepted
    have next : uncounted { a with stores, calls := a.calls + 1 } =
        uncounted { b with stores, calls := b.calls + 1 } := uncounted_eq_iff.mpr ⟨rfl, sameLimit⟩
    obtain ⟨b', ended, alike⟩ := ih next others
    refine ⟨b', ?_, alike⟩
    rw [serveAll_cons, serve_of_verdict_ok accepted]
    exact ended

/-- Requests that are accepted and change nothing are only counted. -/
theorem serveAll_of_idle (idle : ∀ r ∈ requests, verdict s.limit s.stores r = .ok s.stores) :
    s.serveAll requests = some { s with calls := s.calls + requests.length } := by
  induction requests generalizing s with
  | nil => rfl
  | cons r rest ih =>
    obtain ⟨first, others⟩ := List.forall_mem_cons.mp idle
    let counted : Service := { s with calls := s.calls + 1 }
    calc s.serveAll (r :: rest) = counted.serveAll rest := by
          rw [serveAll_cons, serve_of_verdict_ok first, Option.bind_some]
      _ = some { s with calls := s.calls + 1 + rest.length } := ih (s := counted) others
      _ = some { s with calls := s.calls + (r :: rest).length } := by
          rw [List.length_cons, Nat.add_assoc, Nat.add_comm 1]

/-- Requests to one store that may be replayed, where no key is written by one and deleted by
another. -/
structure Harmonious (requests : List Request) : Prop where
  safe : ∀ r ∈ requests, r.isReplaySafe = true
  sameStore : ∀ r ∈ requests, ∀ r' ∈ requests, route? r = route? r'
  sameKind : ∀ r ∈ requests, ∀ r' ∈ requests, ∀ b b', readBody r = .ok b → readBody r' = .ok b' →
    ∀ op ∈ b.operations, ∀ other ∈ b'.operations, op.key = other.key → op.SameKind other

theorem Harmonious.mono (h : Harmonious requests) {fewer : List Request}
    (inside : fewer ⊆ requests) : Harmonious fewer :=
  ⟨fun r member => h.safe r (inside member),
    fun r member r' member' => h.sameStore r (inside member) r' (inside member'),
    fun r member r' member' => h.sameKind r (inside member) r' (inside member')⟩

/-- A request that has nothing left to do still has nothing to do after one in harmony with it. -/
theorem Harmonious.verdict_eq (h : Harmonious requests) (member : r ∈ requests)
    (member' : r' ∈ requests) (idle : verdict limit stores r = .ok stores)
    (accepted : verdict limit stores r' = .ok stores') : verdict limit stores' r = .ok stores' := by
  obtain ⟨id, b, store, route, read, fits, found, unrefused, same⟩ := verdict_eq_ok_iff.mp idle
  obtain ⟨id', c, store', route', read', fits', found', -, rfl⟩ := verdict_eq_ok_iff.mp accepted
  obtain rfl : id = id' := Option.some.inj
    (route.symm.trans ((h.sameStore r member r' member').trans route'))
  obtain rfl : store = store' := Option.some.inj (found.symm.trans found')
  have distinct := nodup_of_bodyRefusal?_eq_none fits
  -- The stores are the same as before, so the one that is addressed is as well.
  have unchanged : store.apply b = store := Table.eq_of_insert_eq_self same.symm found
  have idleHere : store.Idle b := (Store.idle_iff distinct).mpr ⟨unrefused, unchanged⟩
  have idleThere := idleHere.apply (nodup_of_bodyRefusal?_eq_none fits')
    (h.sameKind r member r' member' b c read read')
  obtain ⟨again, kept⟩ := (Store.idle_iff distinct).mp idleThere
  refine verdict_eq_ok_iff.mpr ⟨id, b, store.apply c, route, read, fits, ?_, again, ?_⟩
  · rw [Table.find?_insert, if_pos rfl]
  · rw [kept, Table.insert_insert]

/-- After requests in harmony were served, none of them has anything left to do. -/
theorem idle_of_serveAll (h : Harmonious requests) (ran : s.serveAll requests = some s') :
    ∀ r ∈ requests, verdict s'.limit s'.stores r = .ok s'.stores := by
  -- What the earlier requests did stays done when the last one is served.
  induction requests using List.reverseRecOn generalizing s' with
  | nil => simp
  | append_singleton earlier last ih =>
    rw [serveAll_append, Option.bind_eq_some_iff] at ran
    obtain ⟨s₁, before, served⟩ := ran
    rw [serveAll_cons, Option.bind_eq_some_iff] at served
    obtain ⟨s₂, served, same⟩ := served
    obtain rfl := Option.some.inj same
    obtain ⟨stores, accepted, rfl⟩ := serve_eq_some_iff.mp served
    have lastMember : last ∈ earlier ++ [last] := by simp
    intro r member
    rcases List.mem_append.mp member with old | new
    · have idle := ih (h.mono (List.subset_append_left _ _)) before r old
      exact h.verdict_eq member lastMember idle accepted
    · obtain rfl := List.mem_singleton.mp new
      exact verdict_replay (h.safe r member) accepted

/-- Requests in harmony are served again from where the first of them led, and then lead to where
they led before. -/
theorem serveAll_again {first rest : List Request} {reached final : Service}
    (h : Harmonious first) (ran : s.serveAll first = some reached)
    (goesOn : reached.serveAll rest = some final) (same : now.uncounted = reached.uncounted) :
    ∃ ended, now.serveAll (first ++ rest) = some ended ∧ ended.uncounted = final.uncounted := by
  have again : reached.serveAll (first ++ rest) =
      serveAll { reached with calls := reached.calls + first.length } rest := by
    rw [serveAll_append, serveAll_of_idle (idle_of_serveAll h ran), Option.bind_some]
  -- Once the first requests are through, the service differs from before by their number alone.
  have recounted : reached.uncounted =
      uncounted { reached with calls := reached.calls + first.length } := rfl
  obtain ⟨final', ended, alike⟩ := serveAll_congr recounted goesOn
  obtain ⟨final'', ended', alike'⟩ := serveAll_congr same.symm (again.trans ended)
  exact ⟨final'', ended', alike'.trans alike⟩

end Service

/-! ## Whole transactions -/

namespace Transaction

variable {limit : ChunkLimit} {cs : ChangeSet} {policy : ConflictPolicy} {call : CallMetadata}
  {watch : Watch} {t : Transaction} {storeId : String}

theorem isReplaySafe_request (idempotent : t.policy = .idempotent) (chunk : Chunk) :
    (t.request chunk).isReplaySafe = true := by
  have sections := WriteBody.directives_ofChunk chunk t.policy t.call.authorizationModelId
  rw [idempotent] at sections
  rw [Request.isReplaySafe, writeBody?_request, idempotent]
  exact WriteBody.isReplaySafe_iff.mpr sections

/-- The requests of a transaction that ignores conflicts are in harmony. -/
theorem harmonious_firstRequests (idempotent : t.policy = .idempotent) (count : ℕ) :
    Service.Harmonious (firstRequests limit cs t count) := by
  have chunk {r : Request} (member : r ∈ firstRequests limit cs t count) :
      ∃ i, r = t.request (cs.chunkAt limit i) := by
    obtain ⟨i, -, rfl⟩ := List.mem_map.mp member
    exact ⟨i, rfl⟩
  have operations {i : ℕ} {b : WriteBody} {op : Operation}
      (read : Service.readBody (t.request (cs.chunkAt limit i)) = .ok b)
      (member : op ∈ b.operations) : op ∈ cs.operations := by
    rw [Service.operations_of_readBody read] at member
    exact cs.operations_chunkAt_subset limit i member
  refine ⟨fun r member => ?_, fun r member r' member' => ?_, fun r member r' member' => ?_⟩
  · obtain ⟨i, rfl⟩ := chunk member
    exact isReplaySafe_request idempotent _
  · obtain ⟨i, rfl⟩ := chunk member
    obtain ⟨j, rfl⟩ := chunk member'
    rfl
  · obtain ⟨i, rfl⟩ := chunk member
    obtain ⟨j, rfl⟩ := chunk member'
    intro b b' read read' op performed other performed'
    exact cs.sameKind (operations read performed) (operations read' performed')

theorem firstRequests_add (count more : ℕ) :
    firstRequests limit cs t (count + more) = firstRequests limit cs t count ++
      (List.range more).map fun i => t.request (cs.chunkAt limit (count + i)) := by
  simp [firstRequests, List.range_add]

/-- Where the requests of several chunks are served, those of the first of them are. -/
theorem exists_serveAll_of_le {s s' : Service} {i j : ℕ}
    (ran : s.serveAll (firstRequests limit cs t j) = some s') (le : i ≤ j) :
    ∃ reached, s.serveAll (firstRequests limit cs t i) = some reached := by
  obtain ⟨more, rfl⟩ := Nat.exists_eq_add_of_le le
  rw [firstRequests_add, Service.serveAll_append, Option.bind_eq_some_iff] at ran
  obtain ⟨reached, first, -⟩ := ran
  exact ⟨reached, first⟩

/-- Where the request of a chunk is not served, those of more chunks are not. -/
theorem serveAll_eq_none {s reached : Service} {i j : ℕ}
    (ran : s.serveAll (firstRequests limit cs t i) = some reached)
    (stuck : reached.serve (t.request (cs.chunkAt limit i)) = none) (lt : i < j) :
    s.serveAll (firstRequests limit cs t j) = none := by
  by_contra served
  obtain ⟨s', served⟩ := Option.ne_none_iff_exists'.mp served
  obtain ⟨later, served⟩ := exists_serveAll_of_le served (Nat.succ_le_of_lt lt)
  rw [firstRequests_succ, Service.serveAll_concat, ran, Option.bind_some, stuck] at served
  simp at served

/-- Over the service, a transaction succeeds if the service serves the requests of all its chunks.
Otherwise it fails at the first request that the service does not serve, with the failure that the
response to this request stands for. -/
theorem execute_serve_cases (w : World Service) (stored : storeId? call = some storeId)
    (running : w.isStopped watch = false) :
    let t : Transaction := ⟨storeId, policy, call, watch⟩
    let result := execute Service.link limit cs policy call watch w
    (w.far.serveAll (firstRequests limit cs t (cs.chunkCount limit)) = some result.2.far ∧
        result.1 = .success (totals limit cs) ∧ result.2.cancelled = w.cancelled) ∨
      ∃ k < cs.chunkCount limit, ∃ reached,
        w.far.serveAll (firstRequests limit cs t k) = some reached ∧
        reached.serve (t.request (cs.chunkAt limit k)) = none ∧
        let response := (reached.handle (t.request (cs.chunkAt limit k))).1
        result.1 = .failed
          (.ofResponse (some response.status) response.body (some response.headers) call) k ∧
        result.2.far = reached.after (t.request (cs.chunkAt limit k)) := by
  intro t result
  let P : ℕ → Service → Bool → Prop := fun i far flag =>
    flag = w.cancelled ∧ w.far.serveAll (firstRequests limit cs t i) = some far
  have preserved : t.Preserved Service.link (cs.split limit) P := by
    rintro i chunk u u' found ⟨flag, ran⟩ succeeded
    obtain ⟨-, rfl⟩ := (cs.getElem?_split_eq_some limit).mp found
    obtain ⟨u₁, far, kept, sent⟩ := sendChunk_service t (cs.chunkAt limit i)
      ((World.isStopped_congr flag watch).trans running)
    obtain ⟨success, rfl⟩ := Prod.mk.inj (sent.symm.trans succeeded)
    have accepted : (u.far.handle (t.request (cs.chunkAt limit i))).1.isSuccess = true := by
      simpa using success
    refine ⟨kept.trans flag, ?_⟩
    rw [firstRequests_succ, Service.serveAll_concat, ran, Option.bind_some, Service.serve_eq_ite,
      if_pos accepted, far, Service.after]
  rcases execute_cases w stored preserved ⟨rfl, rfl⟩ with
    ⟨ended, flag, ran⟩ | ⟨i, w₁, w₂, failure, inside, ⟨flag, ran⟩, failed, ended, left, -⟩
  · exact .inl ⟨ran, ended, flag⟩
  · obtain ⟨u₁, far, -, sent⟩ := sendChunk_service t (cs.chunkAt limit i)
      ((World.isStopped_congr flag watch).trans running)
    obtain ⟨rejected, rfl⟩ := Prod.mk.inj (sent.symm.trans failed)
    have refused : (w₁.far.handle (t.request (cs.chunkAt limit i))).1.isSuccess ≠ true := by
      intro accepted
      simp [accepted] at rejected
    rw [if_neg refused] at rejected
    refine .inr ⟨i, inside, w₁.far, ran, ?_, ?_, left.trans far⟩
    · rw [Service.serve_eq_ite, if_neg refused]
    · rw [ended, ← Option.some.inj rejected]

/-- Over the service, a transaction succeeds if the service serves the requests of all its chunks,
and otherwise it fails. -/
theorem execute_eq_serveAll (w : World Service) (stored : storeId? call = some storeId)
    (running : w.isStopped watch = false) :
    let result := execute Service.link limit cs policy call watch w
    let run := w.far.serveAll
      (firstRequests limit cs ⟨storeId, policy, call, watch⟩ (cs.chunkCount limit))
    (run = some result.2.far ∧ result.1 = .success (totals limit cs) ∧
        result.2.cancelled = w.cancelled) ∨
      (run = none ∧ ∃ failure k, result.1 = .failed failure k) := by
  intro result run
  rcases execute_serve_cases w stored running with
    succeeded | ⟨k, inside, reached, ran, stuck, ended, -⟩
  · exact .inl succeeded
  · exact .inr ⟨serveAll_eq_none ran stuck inside, _, k, ended⟩

variable (cs) in
/-- A transaction that has something to send fails at once, unless it has a store and its caller has
not stopped it. -/
theorem sent_or_failed {σ : Type} (link : Link σ) (limit : ChunkLimit) (policy : ConflictPolicy)
    (call : CallMetadata) (watch : Watch) (w : World σ) (nonempty : cs.size ≠ 0) :
    (∃ storeId, storeId? call = some storeId ∧ w.isStopped watch = false) ∨
      ∃ failure, (execute link limit cs policy call watch w).1 = .failed failure 0 := by
  cases stored : storeId? call with
  | none =>
    exact .inr ⟨_, (execute_of_storeId?_eq_none link limit policy watch w nonempty stored).1⟩
  | some storeId =>
    cases stopped : w.isStopped watch with
    | false => exact .inl ⟨storeId, rfl, rfl⟩
    | true => exact .inr ⟨_, (execute_of_isStopped link limit policy nonempty stored stopped).1⟩

/-- A transaction that has something to send and succeeds has a store, and its caller does not stop
it before it starts. -/
theorem sent_of_success {σ : Type} {link : Link σ} {w : World σ} {summary : Summary}
    (nonempty : cs.size ≠ 0)
    (succeeded : (execute link limit cs policy call watch w).1 = .success summary) :
    ∃ storeId, storeId? call = some storeId ∧ w.isStopped watch = false :=
  (sent_or_failed cs link limit policy call watch w nonempty).resolve_right
    fun ⟨_, failed⟩ => Outcome.success_ne_failed succeeded failed

/-- Where all requests of a transaction are served, it succeeds. -/
theorem execute_of_serveAll (w : World Service) (stored : storeId? call = some storeId)
    (running : w.isStopped watch = false) {final : Service}
    (ran : w.far.serveAll (firstRequests limit cs ⟨storeId, policy, call, watch⟩
      (cs.chunkCount limit)) = some final) :
    let result := execute Service.link limit cs policy call watch w
    result.1 = .success (totals limit cs) ∧ result.2.far = final := by
  intro result
  rcases execute_eq_serveAll w stored running with ⟨ran', ended, -⟩ | ⟨stuck, -⟩
  · exact ⟨ended, Option.some.inj (ran'.symm.trans ran)⟩
  · exact absurd (ran.symm.trans stuck) (by simp)

/-- All requests of a transaction that succeeds are served. -/
theorem serveAll_of_success {w : World Service} {summary : Summary} (nonempty : cs.size ≠ 0)
    (succeeded : (execute Service.link limit cs policy call watch w).1 = .success summary) :
    let result := execute Service.link limit cs policy call watch w
    ∃ storeId, storeId? call = some storeId ∧ w.isStopped watch = false ∧
      w.far.serveAll (firstRequests limit cs ⟨storeId, policy, call, watch⟩
        (cs.chunkCount limit)) = some result.2.far ∧
      summary = totals limit cs ∧ result.2.cancelled = w.cancelled := by
  intro result
  obtain ⟨storeId, stored, running⟩ := sent_of_success nonempty succeeded
  rcases execute_eq_serveAll w stored running with ⟨ran, ended, token⟩ | ⟨-, failure, k, ended⟩
  · exact ⟨storeId, stored, running, ran, Outcome.success.inj (succeeded.symm.trans ended), token⟩
  · exact absurd ended (Outcome.success_ne_failed succeeded)

/-- Of a transaction that fails, exactly the requests before the chunk where it fails are served. -/
theorem serveAll_of_failed {w : World Service} {failure : Failure} {k : ℕ}
    (stored : storeId? call = some storeId) (running : w.isStopped watch = false)
    (failed : (execute Service.link limit cs policy call watch w).1 = .failed failure k) :
    let run (count : ℕ) :=
      w.far.serveAll (firstRequests limit cs ⟨storeId, policy, call, watch⟩ count)
    (∃ reached, run k = some reached) ∧ run (k + 1) = none := by
  intro run
  rcases execute_serve_cases w stored running with
    ⟨-, succeeded, -⟩ | ⟨i, -, reached, ran, stuck, ended, -⟩
  · exact absurd failed (Outcome.success_ne_failed succeeded)
  · obtain ⟨-, rfl⟩ := Outcome.failed.inj (ended.symm.trans failed)
    exact ⟨⟨reached, ran⟩, serveAll_eq_none ran stuck (Nat.lt_succ_self i)⟩

/-- If a transaction that ignores conflicts succeeds, then it succeeds again from where its first
chunks led, with the same totals, and ends where it ended before. Run again from its end, it changes
nothing. -/
theorem execute_again (limit : ChunkLimit) (cs : ChangeSet) (call : CallMetadata) (watch : Watch)
    (w : World Service) (summary : Summary)
    (succeeded : (execute Service.link limit cs .idempotent call watch w).1 = .success summary) :
    let t : Transaction := ⟨call.storeId.getD "", .idempotent, call, watch⟩
    let n := cs.size ⌈/⌉ limit.tuples
    let final := (execute Service.link limit cs .idempotent call watch w).2.far
    let run (j : ℕ) := w.far.serveAll (firstRequests limit cs t j)
    run n = some final ∧
    ∀ j ≤ n, ∃ reached, run j = some reached ∧
      ∀ now : World Service, now.far.uncounted = reached.uncounted → now.isStopped watch = false →
        let again := execute Service.link limit cs .idempotent call watch now
        again.1 = .success summary ∧ again.2.far.uncounted = final.uncounted := by
  intro t n final run
  have count : cs.chunkCount limit = n := cs.chunkCount_eq_ceilDiv limit
  rcases eq_or_ne cs.size 0 with empty | nonempty
  · -- Without chunks nothing is sent, neither now nor then.
    have noChunks : n = 0 := count ▸ (cs.chunkCount_eq_zero_iff limit).mpr empty
    obtain ⟨ended, kept, -⟩ :=
      execute_of_size_eq_zero Service.link limit .idempotent call watch w empty
    obtain rfl := Outcome.success.inj (ended.symm.trans succeeded)
    have start : run 0 = some final := congrArg some kept.symm
    refine ⟨noChunks ▸ start, fun j inside => ?_⟩
    obtain rfl : j = 0 := by omega
    refine ⟨final, start, fun now same _ => ?_⟩
    obtain ⟨ended', kept', -⟩ :=
      execute_of_size_eq_zero Service.link limit .idempotent call watch now empty
    exact ⟨ended', by rw [kept', same]⟩
  · obtain ⟨storeId, stored, running⟩ := sent_of_success nonempty succeeded
    have named : call.storeId.getD "" = storeId := by
      rw [(storeId?_eq_some_iff.mp stored).1, Option.getD_some]
    have sameRequests : t = ⟨storeId, .idempotent, call, watch⟩ := by rw [← named]
    rcases execute_eq_serveAll w stored running with
      ⟨ran, ended, -⟩ | ⟨-, failure, k, ended⟩
    · rw [← sameRequests, count] at ran
      obtain rfl := Outcome.success.inj (ended.symm.trans succeeded)
      refine ⟨ran, fun j inside => ?_⟩
      obtain ⟨more, total⟩ := Nat.exists_eq_add_of_le inside
      rw [total, firstRequests_add, Service.serveAll_append, Option.bind_eq_some_iff] at ran
      obtain ⟨reached, first, rest⟩ := ran
      refine ⟨reached, first, fun now same running' => ?_⟩
      -- The first requests have nothing left to do, and the others are served as before.
      obtain ⟨final', ranAgain, alike⟩ :=
        Service.serveAll_again (harmonious_firstRequests rfl j) first rest same
      rw [← firstRequests_add, ← total, ← count, sameRequests] at ranAgain
      rcases execute_eq_serveAll now stored running' with
        ⟨ran', ended', -⟩ | ⟨stuck, -⟩
      · obtain rfl := Option.some.inj (ranAgain.symm.trans ran')
        exact ⟨ended', alike⟩
      · exact absurd (ranAgain.symm.trans stuck) (by simp)
    · exact absurd ended (Outcome.success_ne_failed succeeded)

/-- A handover is run again after its write, and once more at its end. -/
theorem execute_again_handover :
    let limit : ChunkLimit := ⟨1, by decide⟩
    let call : CallMetadata := { storeId := some "s" }
    let t : Transaction := ⟨"s", .idempotent, call, .token⟩
    let s := (Service.createStore {} "s").seed "s" (ChangeSet.reader "bob")
    let execute (far : Service) :=
      execute Service.link limit ChangeSet.handover .idempotent call .token ⟨far, false, []⟩
    let final := (execute s).2.far
    (execute s).1 = .success ⟨2, 1, 1⟩ ∧
      (∃ half, s.serveAll (firstRequests limit ChangeSet.handover t 1) = some half ∧
        half.contains "s" (ChangeSet.reader "bob").key = true ∧
        (execute half).1 = .success ⟨2, 1, 1⟩ ∧
        (execute half).2.far.uncounted = final.uncounted) ∧
      (execute final).1 = .success ⟨2, 1, 1⟩ ∧
      (execute final).2.far.uncounted = final.uncounted := by
  intro limit call t s execute final
  have succeeded : (execute s).1 = .success ⟨2, 1, 1⟩ := by decide +kernel
  obtain ⟨whole, again⟩ :=
    execute_again limit ChangeSet.handover call .token ⟨s, false, []⟩ ⟨2, 1, 1⟩ succeeded
  refine ⟨succeeded, ?_, ?_⟩
  · obtain ⟨half, ran, rerun⟩ := again 1 (by decide)
    have ran : s.serveAll (firstRequests limit ChangeSet.handover t 1) = some half := ran
    have standing : (s.serveAll (firstRequests limit ChangeSet.handover t 1)).any
        (fun half => half.contains "s" (ChangeSet.reader "bob").key) = true := by decide +kernel
    rw [ran] at standing
    exact ⟨half, ran, standing, rerun ⟨half, false, []⟩ rfl rfl⟩
  · obtain ⟨reached, ran, rerun⟩ := again _ le_rfl
    obtain rfl := Option.some.inj (ran.symm.trans whole)
    exact rerun ⟨final, false, []⟩ rfl rfl

end Transaction

end TupleClient
