import Mathlib.Data.List.Forall2
import TupleClient.Proofs.ChunkLoop
import TupleClient.Proofs.ServiceEffect

/-!
# What a transaction carries

The requests of a transaction that meets no failure carry its change set: the sections of writes,
put together in order, are the writes, and the sections of deletes are the deletes. No tuple is lost
or moved where one chunk ends and the next begins, and no condition is lost on the way into a body,
because the tuples of a change set that are to be deleted have none.

## Main definitions

* `Link.noting`, `Link.Succeeds` — the requests that a link carries, and a link without failures
* `WriteBody.Carries` — what a body that carries a chunk is like

## Main results

* `WriteBody.carries_ofChunk` — the body of a chunk carries that chunk
* `Transaction.execute_carries` — the bodies of a transaction together are its change set
-/

namespace TupleClient

/-! ## Links without failures -/

namespace Link

variable {σ : Type}

/-- The link that also notes the requests that it carries, in order. -/
def noting (link : Link σ) : Link (σ × List Request) := fun watch r w =>
  let (flight, carried) := link watch r ⟨w.far.1, w.cancelled, w.log⟩
  (flight, ⟨(carried.far, w.far.2 ++ [r]), carried.cancelled, carried.log⟩)

/-- Every call is answered with a success, and none cancels the token of the caller. -/
def Succeeds (link : Link σ) : Prop :=
  ∀ watch r w, ∃ reply w', link watch r w = (.answered reply, w') ∧ reply.isSuccess = true ∧
    w'.cancelled = w.cancelled

theorem Succeeds.noting {link : Link σ} (h : link.Succeeds) (watch : Watch) (r : Request)
    (w : World (σ × List Request)) :
    ∃ reply w', link.noting watch r w = (.answered reply, w') ∧ reply.isSuccess = true ∧
      w'.cancelled = w.cancelled ∧ w'.far.2 = w.far.2 ++ [r] := by
  obtain ⟨reply, w', answered, success, kept⟩ := h watch r ⟨w.far.1, w.cancelled, w.log⟩
  refine ⟨reply, ⟨(w'.far, w.far.2 ++ [r]), w'.cancelled, w'.log⟩, ?_, success, kept, rfl⟩
  simp only [Link.noting, answered]

end Link

/-! ## The body of a chunk -/

/-- What a body that carries a chunk is like. -/
structure WriteBody.Carries (limit : ChunkLimit) (policy : ConflictPolicy)
    (authorizationModelId : Option String) (chunk : Chunk) (b : WriteBody) : Prop where
  writtenTuples_eq : b.writtenTuples = chunk.writes
  deletedKeys_eq : b.deletedKeys = chunk.deletes.map Tuple.key
  /-- A section is there exactly if the chunk has tuples for it. -/
  writes_iff : (∃ s, b.writes = some s) ↔ chunk.writes ≠ []
  deletes_iff : (∃ s, b.deletes = some s) ↔ chunk.deletes ≠ []
  /-- A section has its own directive, whatever the other one has. -/
  onDuplicate_eq : ∀ s, b.writes = some s → s.onDuplicate = policy.onDuplicateWrite
  onMissing_eq : ∀ s, b.deletes = some s → s.onMissing = policy.onMissingDelete
  nonempty : 1 ≤ b.tupleCount
  fits : b.tupleCount ≤ limit.tuples
  model_eq : b.authorizationModelId = authorizationModelId
  isReplaySafe_iff : b.isReplaySafe = true ↔
    (∀ s, b.writes = some s → s.onDuplicate = .ignore) ∧
      ∀ s, b.deletes = some s → s.onMissing = .ignore

/-- The body of a chunk that is neither empty nor too long carries that chunk. -/
theorem WriteBody.carries_ofChunk {limit : ChunkLimit} {chunk : Chunk} (policy : ConflictPolicy)
    (authorizationModelId : Option String) (nonempty : 0 < chunk.size)
    (fits : chunk.size ≤ limit.tuples) :
    Carries limit policy authorizationModelId chunk
      (ofChunk chunk policy authorizationModelId) := by
  have written : (ofChunk chunk policy authorizationModelId).writtenTuples = chunk.writes := by
    by_cases none : chunk.writes = [] <;> simp [ofChunk, writtenTuples, none]
  have deleted : (ofChunk chunk policy authorizationModelId).deletedKeys =
      chunk.deletes.map Tuple.key := by
    by_cases none : chunk.deletes = [] <;> simp [ofChunk, deletedKeys, none]
  have count : (ofChunk chunk policy authorizationModelId).tupleCount = chunk.size := by
    simp [tupleCount, written, deleted, Chunk.size]
  obtain ⟨onDuplicate, onMissing⟩ := directives_ofChunk chunk policy authorizationModelId
  refine ⟨written, deleted, ?_, ?_, onDuplicate, onMissing, ?_, ?_, rfl, isReplaySafe_iff⟩
  · by_cases none : chunk.writes = [] <;> simp [ofChunk, none]
  · by_cases none : chunk.deletes = [] <;> simp [ofChunk, none]
  · rwa [count]
  · rwa [count]

/-! ## Whole transactions -/

/-- A tuple that is to be deleted is its key without a condition. -/
theorem ChangeSet.map_deletes (cs : ChangeSet) :
    (cs.deletes.map fun t => (⟨t.key, none⟩ : Tuple)) = cs.deletes := by
  have same : ∀ t ∈ cs.deletes, (⟨t.key, none⟩ : Tuple) = id t := by
    rintro ⟨key, condition⟩ member
    obtain rfl : condition = none := cs.accepted.deletes_unconditional _ member
    rfl
  rw [List.map_congr_left same, List.map_id]

/-- A user becomes a reader from inside some networks, in the place of another user. -/
def ChangeSet.guardedHandover : ChangeSet where
  writes :=
    [{ ChangeSet.reader "anne" with
        condition := some ⟨"inside", [("networks", .arr [.str "10.0.0.0/8", .int 4, .null])]⟩ }]
  deletes := [ChangeSet.reader "bob"]
  accepted := (ChangeSet.inputDefect?_eq_none_iff _ _).mp (by decide)

namespace Transaction

variable {σ : Type} {limit : ChunkLimit} {cs : ChangeSet} {policy : ConflictPolicy}
  {call : CallMetadata} {watch : Watch} {storeId : String}

theorem firstRequests_chunkCount {t : Transaction} :
    firstRequests limit cs t (cs.chunkCount limit) = (cs.split limit).map t.request := by
  simp [firstRequests, ChangeSet.split]

/-- Over a link without failures, the requests are those of all chunks. -/
theorem execute_noting {link : Link σ} (succeeds : link.Succeeds)
    (stored : storeId? call = some storeId) (w : World σ) (running : w.isStopped watch = false) :
    (execute link.noting limit cs policy call watch
        ⟨(w.far, []), w.cancelled, w.log⟩).2.far.2 =
      (cs.split limit).map (request ⟨storeId, policy, call, watch⟩) := by
  let t : Transaction := ⟨storeId, policy, call, watch⟩
  let P : ℕ → σ × List Request → Bool → Prop := fun i far flag =>
    flag = w.cancelled ∧ far.2 = firstRequests limit cs t i
  have preserved : t.Preserved link.noting (cs.split limit) P := by
    rintro i chunk u u' found ⟨flag, noted⟩ succeeded
    obtain ⟨-, rfl⟩ := (cs.getElem?_split_eq_some limit).mp found
    obtain ⟨-, reply, u₁, called, -, far, cancelled⟩ := sendChunk_eq_none succeeded
    obtain ⟨reply', u₂, answered, -, kept, added⟩ :=
      succeeds.noting watch (t.request (cs.chunkAt limit i)) u
    obtain ⟨-, rfl⟩ := Prod.mk.inj (called.symm.trans answered)
    refine ⟨cancelled.trans (kept.trans flag), ?_⟩
    rw [far, added, noted, firstRequests_succ]
  rcases execute_cases ⟨(w.far, []), w.cancelled, w.log⟩ stored preserved ⟨rfl, rfl⟩ with
    ⟨-, -, noted⟩ | ⟨i, w₁, w₂, failure, -, ⟨flag, -⟩, failed, -⟩
  · rw [noted, firstRequests_chunkCount]
  · -- No chunk fails: the token is not cancelled, and every call is answered with a success.
    exfalso
    obtain ⟨reply, w₃, answered, success, -⟩ :=
      succeeds.noting watch (t.request (cs.chunkAt limit i)) w₁
    rcases sendChunk_eq_some failed with
      ⟨stopped, -⟩ | ⟨-, abandoned, -⟩ | ⟨-, reply', answered', rejected⟩
    · rw [World.isStopped_congr flag, running] at stopped
      simp at stopped
    · exact absurd (Prod.mk.inj (answered.symm.trans abandoned)).1 (by simp)
    · obtain ⟨replied, -⟩ := Prod.mk.inj (answered.symm.trans answered')
      obtain rfl := Flight.answered.inj replied
      rw [Reply.isSuccess_eq_false rejected] at success
      simp at success

variable (limit cs policy watch) in
/-- Over a link without failures, the bodies of the requests can be read back, and together they are
the change set: the sections of writes, put together, are its writes, and the sections of deletes
are its deletes. Each body carries one chunk. -/
theorem execute_carries {link : Link σ} (succeeds : link.Succeeds)
    (given : call.storeId = some storeId) (notBlank : Text.isBlank storeId = false) (w : World σ)
    (running : w.isStopped watch = false) :
    let noted : World (σ × List Request) := ⟨(w.far, []), w.cancelled, w.log⟩
    let requests := (execute link.noting limit cs policy call watch noted).2.far.2
    ∃ bodies : List WriteBody, requests.map Request.writeBody? = bodies.map some ∧
      bodies.flatMap WriteBody.writtenTuples = cs.writes ∧
      (bodies.flatMap fun b => b.deletedKeys.map fun key => (⟨key, none⟩ : Tuple)) = cs.deletes ∧
      List.Forall₂ (WriteBody.Carries limit policy call.authorizationModelId) (cs.split limit)
        bodies := by
  intro noted requests
  let body (chunk : Chunk) := WriteBody.ofChunk chunk policy call.authorizationModelId
  have stored := storeId?_eq_some_iff.mpr ⟨given, notBlank⟩
  have sent : requests = (cs.split limit).map (request ⟨storeId, policy, call, watch⟩) :=
    execute_noting succeeds stored w running
  have carried : ∀ chunk ∈ cs.split limit,
      WriteBody.Carries limit policy call.authorizationModelId chunk (body chunk) := by
    intro chunk member
    obtain ⟨i, found⟩ := List.mem_iff_getElem?.mp member
    obtain ⟨inside, rfl⟩ := (cs.getElem?_split_eq_some limit).mp found
    exact WriteBody.carries_ofChunk policy _ (cs.size_chunkAt_pos limit inside)
      (cs.size_chunkAt_le limit i)
  refine ⟨(cs.split limit).map body, ?_, ?_, ?_, ?_⟩
  · simp [sent, writeBody?_request, body]
  · rw [List.flatMap_map, ← cs.flatMap_writes_split limit]
    exact List.flatMap_congr fun chunk member => (carried chunk member).writtenTuples_eq
  · calc (((cs.split limit).map body).flatMap fun b => b.deletedKeys.map fun key => ⟨key, none⟩)
        = (cs.split limit).flatMap fun chunk => chunk.deletes.map fun t => ⟨t.key, none⟩ := by
          rw [List.flatMap_map]
          refine List.flatMap_congr fun chunk member => ?_
          rw [(carried chunk member).deletedKeys_eq, List.map_map]
          rfl
      _ = cs.deletes.map fun t => ⟨t.key, none⟩ := by
          rw [← List.map_flatMap, cs.flatMap_deletes_split limit]
      _ = cs.deletes := cs.map_deletes
  · rw [List.forall₂_map_right_iff, List.forall₂_same]
    exact carried

/-- One body carries both sides of a guarded handover, with the condition, under a policy whose
directives differ. -/
theorem execute_carries_guardedHandover :
    let link : Link Unit := fun _ _ w => (.answered (.response { status := 204 }), w)
    let policy : ConflictPolicy := ⟨.ignore, .error⟩
    let call : CallMetadata := { storeId := some "s", authorizationModelId := some "m" }
    let requests := (execute link.noting ⟨2, by decide⟩ ChangeSet.guardedHandover policy call .token
      ⟨((), []), false, []⟩).2.far.2
    ∃ b : WriteBody, requests.map Request.writeBody? = [some b] ∧
      b.writtenTuples = ChangeSet.guardedHandover.writes ∧
      b.deletedKeys = [(ChangeSet.reader "bob").key] ∧
      b.authorizationModelId = some "m" ∧ b.isReplaySafe = false := by
  intro link policy call requests
  have succeeds : link.Succeeds := fun _ _ w => ⟨_, w, rfl, rfl, rfl⟩
  have given : call.storeId = some "s" := rfl
  obtain ⟨bodies, decoded, written, deleted, carried⟩ := execute_carries ⟨2, by decide⟩
    ChangeSet.guardedHandover policy .token succeeds given (by decide) ⟨(), false, []⟩ rfl
  have single : ChangeSet.guardedHandover.split ⟨2, by decide⟩ =
      [ChangeSet.guardedHandover.chunkAt ⟨2, by decide⟩ 0] := rfl
  rw [single] at carried
  obtain ⟨b, rest, carries, noMore, rfl⟩ := List.forall₂_cons_left_iff.mp carried
  obtain rfl := List.forall₂_nil_left_iff.mp noMore
  refine ⟨b, decoded, by simpa using written, carries.deletedKeys_eq, carries.model_eq, ?_⟩
  obtain ⟨deletes, present⟩ := carries.deletes_iff.mpr (by decide)
  have rejects : deletes.onMissing ≠ .ignore := by
    rw [carries.onMissing_eq deletes present]
    decide
  rw [Bool.eq_false_iff, Ne, carries.isReplaySafe_iff]
  exact fun safe => rejects (safe.2 deletes present)

end Transaction

end TupleClient
