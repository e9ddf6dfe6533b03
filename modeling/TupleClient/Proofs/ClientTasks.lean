import TupleClient.Client
import TupleClient.Proofs.ChunkLoop
import TupleClient.Retry

/-!
# What a client is asked to do

However a client is asked to write or to delete, it either refuses the tuples or executes a
transaction with its own settings. A transaction adds nothing to what its calls do: a property of
the far side that every call keeps is kept by the retries of a request and by the whole transaction,
and when the transaction fails, either it was stopped or one of its calls was answered with that
failure.

## Main definitions

* `Client.ofStore` — the client of a store
* `ClientTask`, `Client.run` — what a client can be asked to do with tuples, and what comes of it
* `Link.Keeps` — a property of the far side that calls keep, and one that their replies have

## Main results

* `Client.run_cases` — a task is refused or is one transaction for the configured store
* `Link.Keeps.retrying` — what single attempts keep, all attempts at a request keep
* `Transaction.execute_keeps` — what calls keep, a transaction keeps
-/

namespace TupleClient

variable {σ : Type}

/-! ## Tasks -/

/-- What a client can be asked to do with tuples. -/
inductive ClientTask where
  /-- Execute a change set as an operation, watching the token or not. -/
  | execute (cs : ChangeSet) (policy : Option ConflictPolicy) (operation : String) (watch : Watch)
  | write (cs : ChangeSet) (policy : Option ConflictPolicy)
  | writeTuples (tuples : List Tuple) (policy : Option ConflictPolicy)
  | deleteTuples (tuples : List Tuple) (policy : Option ConflictPolicy)

namespace Client

/-- The client of a store, with all other settings as they are by default. -/
def ofStore (storeId : String) (named : Text.isBlank storeId = false) : Client where
  settings := { connection := { storeId := storeId } }
  valid :=
    -- Apart from the store, nothing depends on which one it is.
    have others : Settings.Valid { connection := { storeId := "s" } } :=
      (Settings.defect?_eq_none_iff _).mp (by decide +kernel)
    ⟨named, others.scheme, others.timeout, others.limit, others.waits, others.level⟩

variable (c : Client) (link : Link σ)

/-- The store that a client is configured for. -/
def storeId (c : Client) : String := c.settings.connection.storeId

/-- What comes of a task. -/
def run : ClientTask → World σ → Outcome × World σ
  | .execute cs policy operation watch, w => c.execute link cs policy operation watch w
  | .write cs policy, w => c.write link cs policy w
  | .writeTuples tuples policy, w => c.writeTuples link tuples policy w
  | .deleteTuples tuples policy, w => c.deleteTuples link tuples policy w

/-- The configured store is one that a transaction accepts. -/
theorem storeId?_callMetadata (operation : String) :
    Transaction.storeId? (c.callMetadata operation) = some c.storeId :=
  Transaction.storeId?_eq_some_iff.mpr ⟨rfl, c.valid.store⟩

/-- A task is refused before anything is sent, or it is one transaction. -/
theorem run_cases (task : ClientTask) (w : World σ) :
    (∃ e operation, c.run link task w = (c.refused e operation, w)) ∨
      ∃ cs policy operation watch, c.run link task w =
        Transaction.execute link c.limit cs policy (c.callMetadata operation) watch w := by
  cases task with
  | execute cs policy operation watch => exact .inr ⟨cs, _, operation, watch, rfl⟩
  | write cs policy => exact .inr ⟨cs, _, _, _, rfl⟩
  | writeTuples tuples policy =>
    rw [run, writeTuples]
    cases ChangeSet.ofWrites tuples with
    | error e => exact .inl ⟨e, _, rfl⟩
    | ok cs => exact .inr ⟨cs, _, _, _, rfl⟩
  | deleteTuples tuples policy =>
    rw [run, deleteTuples]
    cases ChangeSet.ofDeletes tuples with
    | error e => exact .inl ⟨e, _, rfl⟩
    | ok cs => exact .inr ⟨cs, _, _, _, rfl⟩

end Client

/-! ## What calls keep -/

/-- Calls with requests of a kind keep a property of the far side, and where it holds, their replies
have a property as well. -/
structure Link.Keeps (link : Link σ) (sends : Request → Prop) (far : σ → Prop)
    (reply : Reply → Prop) : Prop where
  after : ∀ watch r w, sends r → far w.far → far (link watch r w).2.far
  answer : ∀ watch r w answer, sends r → far w.far → (link watch r w).1 = .answered answer →
    reply answer

variable {link : Link σ} {sends : Request → Prop} {far : σ → Prop} {reply : Reply → Prop}

/-- From any attempt on, the attempts at a request keep what each of them keeps. -/
theorem RetryPolicy.attempts_keeps (p : RetryPolicy) (chance : ℕ → RetryPolicy.Chance)
    (keeps : link.Keeps sends far reply) (watch : Watch) {r : Request} (sent : sends r)
    (attempt remaining : ℕ) {w : World σ} (before : far w.far) :
    let result := p.attempts chance link watch r attempt remaining w
    far result.2.far ∧ ∀ answer, result.1 = .answered answer → reply answer := by
  -- An attempt keeps the property whatever is decided about its reply, so the next one finds it.
  induction remaining generalizing attempt w with
  | zero => exact ⟨keeps.after watch r w sent before, (keeps.answer watch r w · sent before)⟩
  | succ remaining ih =>
    have after := keeps.after watch r w sent before
    have answer := (keeps.answer watch r w · sent before)
    rcases called : link watch r w with ⟨flight, w'⟩
    rw [called] at after answer
    cases flight with
    | abandoned =>
      rw [p.attempts_of_abandoned chance attempt (remaining + 1) called]
      exact ⟨after, answer⟩
    | answered answered =>
      rcases p.attempts_of_answered chance attempt remaining called with
        ⟨-, handedOn, far', -⟩ | ⟨kind, -, next, far', -, ⟨-, -, ended⟩ | ⟨-, goesOn⟩⟩
      · exact ⟨far' ▸ after, fun given same => answer given (handedOn ▸ same)⟩
      · rw [ended]
        exact ⟨far' ▸ after, by simp⟩
      · rw [goesOn]
        exact ih (attempt + 1) (far' ▸ after)

/-- All attempts at a request keep what each of them keeps. -/
theorem Link.Keeps.retrying (keeps : link.Keeps sends far reply) (p : RetryPolicy)
    (chance : ℕ → RetryPolicy.Chance) : (p.link chance link).Keeps sends far reply where
  after watch _ _ sent before :=
    (p.attempts_keeps chance keeps watch sent 0 p.maxRetries before).1
  answer watch _ _ answer sent before :=
    (p.attempts_keeps chance keeps watch sent 0 p.maxRetries before).2 answer

variable {limit : ChunkLimit} {cs : ChangeSet} {policy : ConflictPolicy} {call : CallMetadata}
  {watch : Watch} {storeId : String}

variable (limit cs) in
/-- A transaction keeps what its calls keep, and it fails because it was stopped or because a call
was answered with a failure. -/
theorem Transaction.execute_keeps (keeps : link.Keeps sends far reply)
    (stored : storeId? call = some storeId)
    (sent : ∀ chunk, sends (request ⟨storeId, policy, call, watch⟩ chunk)) {w : World σ}
    (before : far w.far) :
    let result := execute link limit cs policy call watch w
    far result.2.far ∧ ∀ failure i, result.1 = .failed failure i →
      failure = .cancellation call ∨
        ∃ answer, reply answer ∧ answer.result call = .error failure := by
  intro result
  let t : Transaction := ⟨storeId, policy, call, watch⟩
  have preserved : t.Preserved link (cs.split limit) fun _ state _ => far state := by
    rintro i chunk u u' - holds succeeded
    obtain ⟨-, answer, u₁, answered, -, same, -⟩ := sendChunk_eq_none succeeded
    have after := keeps.after watch (t.request chunk) u (sent chunk) holds
    rw [answered] at after
    rwa [same]
  rcases execute_cases w stored preserved before with
    ⟨success, after⟩ | ⟨i, u, u', failure, -, holds, failed, ended, same, -⟩
  · exact ⟨after, fun failure i failed => absurd failed (Outcome.success_ne_failed success)⟩
  · have request := sent (cs.chunkAt limit i)
    have after := keeps.after watch _ u request holds
    have cause : far u'.far ∧ (failure = .cancellation call ∨
        ∃ answer, reply answer ∧ answer.result call = .error failure) := by
      rcases sendChunk_eq_some failed with
        ⟨-, stopped, rfl⟩ | ⟨-, abandoned, gone⟩ | ⟨-, answer, answered, rejected⟩
      · exact ⟨holds, .inl stopped⟩
      · rw [abandoned] at after
        exact ⟨after, .inl gone⟩
      · rw [answered] at after
        have known := keeps.answer watch _ u answer request holds (congrArg Prod.fst answered)
        exact ⟨after, .inr ⟨answer, known, rejected⟩⟩
    refine ⟨same ▸ cause.1, fun failure' i' failed' => ?_⟩
    obtain ⟨rfl, -⟩ := Outcome.failed.inj (ended.symm.trans failed')
    exact cause.2

/-- A task keeps what the calls for the configured store keep. It fails because its tuples are
refused, because it was stopped, or because a call was answered with a failure. -/
theorem Client.run_keeps (c : Client) (keeps : link.Keeps sends far reply)
    (sent : ∀ t : Transaction, t.storeId = c.storeId → ∀ chunk, sends (t.request chunk))
    (task : ClientTask) {w : World σ} (before : far w.far) :
    let result := c.run link task w
    far result.2.far ∧ ∀ failure i, result.1 = .failed failure i → ∃ operation,
      (∃ message, failure = .ofInput message (c.callMetadata operation)) ∨
        failure = .cancellation (c.callMetadata operation) ∨
        ∃ answer, reply answer ∧ answer.result (c.callMetadata operation) = .error failure := by
  intro result
  rcases c.run_cases link task w with
    ⟨e, operation, refused⟩ | ⟨cs, policy, operation, watch, executed⟩
  · refine ⟨by simpa [result, refused] using before, fun failure i failed => ?_⟩
    rw [show result = _ from refused, Client.refused] at failed
    obtain ⟨rfl, -⟩ := Outcome.failed.inj failed
    exact ⟨operation, .inl ⟨e.message, rfl⟩⟩
  · obtain ⟨after, cause⟩ := Transaction.execute_keeps c.limit cs keeps
      (c.storeId?_callMetadata operation)
      (fun chunk => sent ⟨c.storeId, policy, c.callMetadata operation, watch⟩ rfl chunk) before
    rw [← executed] at after cause
    exact ⟨after, fun failure i failed => ⟨operation, .inr (cause failure i failed)⟩⟩

end TupleClient
