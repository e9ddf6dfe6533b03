import TupleClient.Proofs.Windows
import TupleClient.Transaction

/-!
# Transactions chunk by chunk

What a transaction does is decided by what it does for one chunk. A property that passes from each
chunk that succeeds to the next holds when the transaction ends, whether it ends with a success or
at a chunk that fails; the log is left out of such properties.

## Main definitions

* `Transaction.sendChunk` — one chunk sent, with the failure that ends the transaction there
* `Transaction.Preserved` — a property passes from each chunk that succeeds to the next
* `Transaction.firstRequests` — the requests that carry the first chunks

## Main results

* `Transaction.sendChunk_eq_none`, `Transaction.sendChunk_eq_some` — all that can come of one chunk
* `Transaction.execute_cases` — how a transaction ends, along a property that is preserved
* `Transaction.execute_of_size_eq_zero`, `Transaction.execute_of_storeId?_eq_none`,
  `Transaction.execute_of_isStopped` — transactions that send nothing
-/

namespace TupleClient

/-- There is only one first position with a property. -/
theorem first_unique {p : ℕ → Prop} {i k : ℕ} (here : p i) (first : ∀ j < i, ¬ p j)
    (there : p k) (firstThere : ∀ j < k, ¬ p j) : i = k := by
  rcases lt_trichotomy i k with lower | same | higher
  · exact absurd here (firstThere i lower)
  · exact same
  · exact absurd there (first k higher)

/-- A reply is turned into a response exactly if it reports success. -/
theorem Reply.result_eq_ok_iff (call : CallMetadata) {reply : Reply} :
    (∃ r, reply.result call = .ok r) ↔ reply.isSuccess = true := by
  cases reply with
  | response r =>
    by_cases success : r.isSuccess <;> simp [result, isSuccess, success]
  | failure e => simp [result, isSuccess]

theorem Reply.isSuccess_eq_false {call : CallMetadata} {reply : Reply} {failure : Failure}
    (h : reply.result call = .error failure) : reply.isSuccess = false := by
  rw [Bool.eq_false_iff, Ne, ← result_eq_ok_iff call, h]
  simp

theorem Outcome.success_ne_failed {o : Outcome} {summary : Summary} {failure : Failure} {i : ℕ}
    (success : o = .success summary) : o ≠ .failed failure i := by
  rw [success]
  simp

/-- Whether a caller sees a cancellation depends on the token alone. -/
theorem World.isStopped_congr {σ τ : Type} {u : World σ} {w : World τ}
    (same : u.cancelled = w.cancelled) (watch : Watch) :
    u.isStopped watch = w.isStopped watch := by
  cases watch <;> simp [isStopped, same]

namespace Transaction

variable {σ : Type} (t : Transaction) (link : Link σ)

/-! ## One chunk -/

/-- Sends one chunk: the failure that ends the transaction there, if any, and the world after it. -/
def sendChunk (chunk : Chunk) (w : World σ) : Option Failure × World σ :=
  if w.isStopped t.watch then (some (.cancellation t.call), w)
  else
    match link t.watch (t.request chunk) w with
    | (.abandoned, w) => (some (.cancellation t.call), w)
    | (.answered reply, w) =>
      match reply.result t.call with
      | .error failure => (some failure, w)
      | .ok _ =>
        -- What a success says plays no part: only that there was one.
        (none, w.say .debug .transaction "chunk applied"
          (operation t.call ++ [("chunk_index", Json.nat chunk.index),
            ("tuples", Json.nat chunk.size)]))

variable {t link}

theorem sendChunks_cons (done : Summary) (chunk : Chunk) (rest : List Chunk) (w : World σ) :
    t.sendChunks link done (chunk :: rest) w =
      match t.sendChunk link chunk w with
      | (some failure, w') => fail failure chunk.index w'
      | (none, w') => t.sendChunks link (addChunk done chunk) rest w' := by
  rw [sendChunks, sendChunk]
  -- Both sides look at the token, then at the call, then at the reply.
  split
  · rfl
  · obtain ⟨flight, w'⟩ := link t.watch (t.request chunk) w
    cases flight with
    | abandoned => rfl
    | answered reply =>
      dsimp only
      cases reply.result t.call <;> rfl

/-- A chunk succeeds if the token is not seen to be cancelled and its call is answered with a
success. -/
theorem sendChunk_eq_none {chunk : Chunk} {w w' : World σ}
    (h : t.sendChunk link chunk w = (none, w')) :
    w.isStopped t.watch = false ∧
      ∃ reply w₁, link t.watch (t.request chunk) w = (.answered reply, w₁) ∧
        reply.isSuccess = true ∧ w'.far = w₁.far ∧ w'.cancelled = w₁.cancelled := by
  unfold sendChunk at h
  split at h
  · simp at h
  · next running =>
    refine ⟨by simpa using running, ?_⟩
    split at h
    · simp at h
    · next reply w₁ answered =>
      split at h
      · simp at h
      · next response accepted =>
        obtain rfl := (Prod.mk.inj h).2
        have success := (Reply.result_eq_ok_iff t.call).mp ⟨response, accepted⟩
        exact ⟨reply, w₁, answered, success, rfl, rfl⟩

/-- A chunk fails because the token is seen to be cancelled before it is sent, because its call is
given up, or because its call is answered with a failure. -/
theorem sendChunk_eq_some {chunk : Chunk} {w w' : World σ} {failure : Failure}
    (h : t.sendChunk link chunk w = (some failure, w')) :
    (w.isStopped t.watch = true ∧ failure = .cancellation t.call ∧ w' = w) ∨
      (w.isStopped t.watch = false ∧
        link t.watch (t.request chunk) w = (.abandoned, w') ∧ failure = .cancellation t.call) ∨
      (w.isStopped t.watch = false ∧
        ∃ reply, link t.watch (t.request chunk) w = (.answered reply, w') ∧
          reply.result t.call = .error failure) := by
  unfold sendChunk at h
  split at h
  · next stopped =>
    obtain ⟨rfl, rfl⟩ := by simpa using h
    exact .inl ⟨stopped, rfl, rfl⟩
  · next running =>
    have running : w.isStopped t.watch = false := by simpa using running
    split at h
    · next w₁ abandoned =>
      obtain ⟨rfl, rfl⟩ := by simpa using h
      exact .inr (.inl ⟨running, abandoned, rfl⟩)
    · next reply w₁ answered =>
      split at h
      · next f rejected =>
        obtain ⟨rfl, rfl⟩ := by simpa using h
        exact .inr (.inr ⟨running, reply, answered, rejected⟩)
      · simp at h

/-! ## Several chunks -/

variable (t link) in
/-- `P i` is about the far side and the token when `i` chunks have succeeded, and passes from each
chunk that succeeds to the next. -/
def Preserved (chunks : List Chunk) (P : ℕ → σ → Bool → Prop) : Prop :=
  ∀ i chunk w w', chunks[i]? = some chunk → P i w.far w.cancelled →
    t.sendChunk link chunk w = (none, w') → P (i + 1) w'.far w'.cancelled

variable {P : ℕ → σ → Bool → Prop}

theorem sendChunks_cases {chunks : List Chunk} (preserved : t.Preserved link chunks P)
    (done : Summary) (w : World σ) (start : P 0 w.far w.cancelled) :
    let result := t.sendChunks link done chunks w
    (result.1 = .success (chunks.foldl addChunk done) ∧
        P chunks.length result.2.far result.2.cancelled) ∨
      ∃ i chunk w₁ w₂ failure, chunks[i]? = some chunk ∧ P i w₁.far w₁.cancelled ∧
        t.sendChunk link chunk w₁ = (some failure, w₂) ∧
        result.1 = .failed failure chunk.index ∧ result.2.far = w₂.far ∧
        result.2.cancelled = w₂.cancelled := by
  -- The property is general because for the chunks after the first it is shifted by one.
  induction chunks generalizing P done w with
  | nil => exact .inl ⟨rfl, start⟩
  | cons chunk rest ih =>
    intro result
    cases sent : t.sendChunk link chunk w with
    | mk failure w' =>
      cases failure with
      | some failure =>
        have ended : result = fail failure chunk.index w' := by
          simp only [result, sendChunks_cons, sent]
        rw [ended]
        exact .inr ⟨0, chunk, w, w', failure, rfl, start, sent, rfl, rfl, rfl⟩
      | none =>
        have goesOn : result = t.sendChunks link (addChunk done chunk) rest w' := by
          simp only [result, sendChunks_cons, sent]
        have later : t.Preserved link rest fun i => P (i + 1) :=
          fun i c v v' found => preserved (i + 1) c v v' (by simpa using found)
        rw [goesOn]
        rcases ih later (addChunk done chunk) w' (preserved 0 chunk w w' rfl start sent) with
          success | ⟨i, c, w₁, w₂, failure, found, holds, ended⟩
        · exact .inl (by simpa using success)
        · exact .inr ⟨i + 1, c, w₁, w₂, failure, by simpa using found, holds, ended⟩

theorem foldl_addChunk (chunks : List Chunk) (done : Summary) :
    chunks.foldl addChunk done =
      ⟨done.chunksApplied + chunks.length, done.writes + (chunks.flatMap Chunk.writes).length,
        done.deletes + (chunks.flatMap Chunk.deletes).length⟩ := by
  induction chunks generalizing done with
  | nil => rfl
  | cons chunk rest ih =>
    simp only [List.foldl_cons, ih, addChunk, List.length_cons, List.flatMap_cons,
      List.length_append, Summary.mk.injEq]
    omega

/-! ## Whole transactions -/

theorem storeId?_eq_some_iff {call : CallMetadata} {storeId : String} :
    storeId? call = some storeId ↔
      call.storeId = some storeId ∧ Text.isBlank storeId = false := by
  simp [storeId?, Option.filter_eq_some_iff]

theorem storeId?_eq_none_iff {call : CallMetadata} :
    storeId? call = none ↔ ∀ id, call.storeId = some id → Text.isBlank id = true := by
  simp [storeId?, Option.filter_eq_none_iff]

variable {limit : ChunkLimit} {cs : ChangeSet} {policy : ConflictPolicy} {call : CallMetadata}
  {watch : Watch} {w : World σ}

variable (limit cs) in
/-- The requests that carry the first chunks of a change set, in order. -/
def firstRequests (t : Transaction) (count : ℕ) : List Request :=
  (List.range count).map fun i => t.request (cs.chunkAt limit i)

theorem length_firstRequests {t : Transaction} {count : ℕ} :
    (firstRequests limit cs t count).length = count := by
  simp [firstRequests]

theorem firstRequests_succ {t : Transaction} {count : ℕ} :
    firstRequests limit cs t (count + 1) =
      firstRequests limit cs t count ++ [t.request (cs.chunkAt limit count)] := by
  simp [firstRequests, List.range_succ]

/-- The totals of a change set. -/
def totals (limit : ChunkLimit) (cs : ChangeSet) : Summary :=
  ⟨cs.chunkCount limit, cs.writes.length, cs.deletes.length⟩

theorem totals_of_size_eq_zero (empty : cs.size = 0) : totals limit cs = {} := by
  have noTuples : cs.writes = [] ∧ cs.deletes = [] := by simpa [ChangeSet.size] using empty
  simp [totals, (cs.chunkCount_eq_zero_iff limit).mpr empty, noTuples]

theorem foldl_addChunk_split : (cs.split limit).foldl addChunk {} = totals limit cs := by
  rw [foldl_addChunk, cs.length_split, cs.flatMap_writes_split, cs.flatMap_deletes_split]
  simp [totals]

section

variable (link limit policy call watch w)

/-- A transaction without chunks succeeds and sends nothing. -/
theorem execute_of_size_eq_zero (empty : cs.size = 0) :
    let result := execute link limit cs policy call watch w
    result.1 = .success {} ∧ result.2.far = w.far ∧ result.2.cancelled = w.cancelled := by
  simp [execute, (cs.split_eq_nil_iff limit).mpr empty]

variable {call} in
/-- A transaction without a store sends nothing. -/
theorem execute_of_storeId?_eq_none (nonempty : cs.size ≠ 0) (missing : storeId? call = none) :
    let result := execute link limit cs policy call watch w
    result.1 = .failed (.ofInput "a store id is required to write tuples" call) 0 ∧
      result.2.far = w.far ∧ result.2.cancelled = w.cancelled := by
  have chunks : cs.split limit ≠ [] := mt (cs.split_eq_nil_iff limit).mp nonempty
  simp [execute, chunks, missing, fail]

variable {call} in
theorem execute_eq_sendChunks {storeId : String} (nonempty : cs.size ≠ 0)
    (stored : storeId? call = some storeId) :
    ∃ w₀ : World σ, w₀.far = w.far ∧ w₀.cancelled = w.cancelled ∧
      execute link limit cs policy call watch w =
        sendChunks ⟨storeId, policy, call, watch⟩ link {} (cs.split limit) w₀ := by
  have chunks : cs.split limit ≠ [] := mt (cs.split_eq_nil_iff limit).mp nonempty
  simp only [execute, stored, List.isEmpty_iff, chunks, ↓reduceIte]
  refine ⟨_, ?_, ?_, rfl⟩ <;> rfl

end

variable (w) in
/-- A transaction ends in one of two ways. Either all its chunks succeed, or a chunk fails after
those before it succeeded. -/
theorem execute_cases {storeId : String} (stored : storeId? call = some storeId)
    (preserved : Preserved ⟨storeId, policy, call, watch⟩ link (cs.split limit) P)
    (start : P 0 w.far w.cancelled) :
    let result := execute link limit cs policy call watch w
    (result.1 = .success (totals limit cs) ∧
        P (cs.chunkCount limit) result.2.far result.2.cancelled) ∨
      ∃ i w₁ w₂ failure, i < cs.chunkCount limit ∧ P i w₁.far w₁.cancelled ∧
        sendChunk ⟨storeId, policy, call, watch⟩ link (cs.chunkAt limit i) w₁ =
          (some failure, w₂) ∧
        result.1 = .failed failure i ∧ result.2.far = w₂.far ∧
        result.2.cancelled = w₂.cancelled := by
  intro result
  rcases eq_or_ne cs.size 0 with empty | nonempty
  · -- Without chunks the transaction is over before it looks for a store.
    obtain ⟨succeeded, far, cancelled⟩ :=
      execute_of_size_eq_zero link limit policy call watch w empty
    refine .inl ⟨?_, ?_⟩
    · rw [succeeded, totals_of_size_eq_zero empty]
    · rw [(cs.chunkCount_eq_zero_iff limit).mpr empty, far, cancelled]
      exact start
  · obtain ⟨w₀, far, cancelled, unfolded⟩ :=
      execute_eq_sendChunks link limit policy watch w nonempty stored
    have cases := sendChunks_cases preserved {} w₀ (by rwa [far, cancelled])
    rw [← unfolded, foldl_addChunk_split, cs.length_split] at cases
    rcases cases with success | ⟨i, chunk, w₁, w₂, failure, found, holds, sent, ended⟩
    · exact .inl success
    · obtain ⟨inside, rfl⟩ := (cs.getElem?_split_eq_some limit).mp found
      exact .inr ⟨i, w₁, w₂, failure, inside, holds, sent, ended⟩

variable (link limit policy) in
/-- A transaction whose caller has stopped it before it starts sends nothing. -/
theorem execute_of_isStopped {storeId : String} (nonempty : cs.size ≠ 0)
    (stored : storeId? call = some storeId) (stopped : w.isStopped watch = true) :
    let result := execute link limit cs policy call watch w
    result.1 = .failed (.cancellation call) 0 ∧ result.2.far = w.far := by
  intro result
  -- No chunk succeeds, so nothing has to be preserved.
  let P : ℕ → σ → Bool → Prop := fun i far flag => i = 0 ∧ far = w.far ∧ flag = w.cancelled
  have preserved : Preserved ⟨storeId, policy, call, watch⟩ link (cs.split limit) P := by
    rintro i chunk u u' - ⟨-, -, flag⟩ sent
    obtain ⟨running, -⟩ := sendChunk_eq_none sent
    rw [World.isStopped_congr flag, stopped] at running
    simp at running
  rcases execute_cases w stored preserved ⟨rfl, rfl, rfl⟩ with
    ⟨-, noChunks, -⟩ | ⟨i, w₁, w₂, failure, -, ⟨rfl, start, flag⟩, sent, ended, far, -⟩
  · exact absurd ((cs.chunkCount_eq_zero_iff limit).mp noChunks) nonempty
  · rw [sendChunk, if_pos ((World.isStopped_congr flag watch).trans stopped)] at sent
    obtain ⟨cause, rfl⟩ := Prod.mk.inj sent
    obtain rfl := Option.some.inj cause
    exact ⟨ended, far.trans start⟩

end Transaction

end TupleClient
