import TupleClient.Proofs.ChunkLoop
import TupleClient.Proofs.ServiceEffect
import TupleClient.Retry

/-!
# Transactions over a lossy network

Between the client and the service, a request may get lost, and so may a reply after the service has
done what it was asked to. The client cannot tell the one from the other. It repeats a request only
where a repetition does no harm, so a chunk takes effect once or not at all: whatever gets lost, the
stores end up as after the chunks that succeeded, or as after the failed chunk as well.

## Main definitions

* `Fate`, `Service.lossyLink` — what the network does to one attempt, and the link through it
* `Service.serve`, `Service.serveAll` — the service after requests that it answers with success
* `Service.Unsettled`, `Service.Settled` — the stores before and after an attempt at a request

## Main results

* `Service.settled_lossyLink`, `RetryPolicy.settled_attempts` — what one attempt, and what all
  attempts at a request, leave at the service
* `Transaction.execute_lossy` — what a transaction leaves at the service
-/

namespace TupleClient

theorem Reply.failureKind?_eq_none_iff {reply : Reply} :
    reply.failureKind? = none ↔ reply.isSuccess = true := by
  cases reply with
  | response r => cases success : r.isSuccess <;> simp [failureKind?, isSuccess, success]
  | failure e => simp [failureKind?, isSuccess]

/-! ## The network -/

/-- What becomes of one attempt at a request. Where something gets lost, the client receives a
failure that does not come from the service. -/
inductive Fate where
  | delivered
  /-- The request does not arrive. -/
  | requestLost (reply : Reply) (kind : reply.failureKind? = some .transport ∨
      reply.failureKind? = some .rateLimit ∨ reply.failureKind? = some .server)
  /-- The service does what it is asked to, but its reply does not arrive. -/
  | replyLost (reply : Reply) (kind : reply.failureKind? = some .transport ∨
      reply.failureKind? = some .server)

/-- The service may have an effect that the client is not told of. -/
def Fate.LosesReply : Fate → Prop
  | replyLost _ _ => True
  | _ => False

/-- The service behind a network. -/
structure Remote where
  service : Service
  /-- The number of attempts made. -/
  attempts : ℕ := 0

namespace Service

/-- The link to the service through a network that decides the fate of every attempt. -/
def lossyLink (fates : ℕ → Fate) : Link Remote := fun watch r w =>
  let (flight, served) := link watch r ⟨w.far.service, w.cancelled, w.log⟩
  let arrived : World Remote :=
    ⟨⟨served.far, w.far.attempts + 1⟩, served.cancelled, served.log⟩
  match fates w.far.attempts with
  | .delivered => (flight, arrived)
  | .requestLost reply _ => (.answered reply, { w with far := ⟨w.far.service, w.far.attempts + 1⟩ })
  | .replyLost reply _ => (.answered reply, arrived)

/-- The service after a request, if it answers it with success. -/
def serve (s : Service) (r : Request) : Option Service :=
  let (response, after, _) := s.handle r
  if response.status = 200 then some after else none

/-- The service after requests in order, if it answers all of them with success. -/
def serveAll (s : Service) (requests : List Request) : Option Service := requests.foldlM serve s

variable {s : Service} {r : Request} {stores : Table String Store}

theorem serveAll_concat (requests : List Request) (r : Request) :
    s.serveAll (requests ++ [r]) = (s.serveAll requests).bind fun after => after.serve r := by
  simp [serveAll, List.foldlM_append]

theorem serve_of_verdict_ok (accepted : verdict s.limit s.stores r = .ok stores) :
    s.serve r = some { s with stores, calls := s.calls + 1 } := by
  obtain ⟨headers, response, after⟩ := handle_of_verdict_ok accepted
  simp [serve, response, after]

/-! ## One attempt -/

variable {fates : ℕ → Fate} {limit : ℕ} {reply : Reply} {after : Service}

/-- Before an attempt at a request, the stores are as they were, or an earlier attempt had its
effect without a reply, and the request may be replayed. -/
structure Unsettled (fates : ℕ → Fate) (limit : ℕ) (stores : Table String Store) (r : Request)
    (now : Service) : Prop where
  limit_eq : now.limit = limit
  stores_eq : now.stores = stores ∨ (verdict limit stores r = .ok now.stores ∧
    r.isReplaySafe = true ∧ ∃ i, (fates i).LosesReply)

/-- What a reply to an attempt at a request tells about the stores after it. -/
structure Settled (fates : ℕ → Fate) (limit : ℕ) (stores : Table String Store) (r : Request)
    (reply : Reply) (after : Service) : Prop where
  limit_eq : after.limit = limit
  /-- The request has had its effect once or not at all. -/
  atMostOnce : after.stores = stores ∨ verdict limit stores r = .ok after.stores
  success : reply.isSuccess = true → verdict limit stores r = .ok after.stores
  /-- What failed has had no effect, unless some reply was lost. -/
  failed : reply.isSuccess = false → after.stores = stores ∨ ∃ i, (fates i).LosesReply
  /-- A failure that does not pass by itself comes from the service, which refuses the request. -/
  refused : ∀ kind, reply.failureKind? = some kind → kind.isRetryable = false →
    after.stores = stores ∧
      ∃ e headers, verdict limit stores r = .error e ∧ reply = .response (refuse e headers)
  /-- What must not be replayed has had no effect if the caller is throttled. -/
  throttled : reply.failureKind? = some .rateLimit → r.isReplaySafe = false → after.stores = stores

variable {now : Service}

/-- A request that arrives is accepted, now or earlier, or refused without any effect at all. -/
theorem Unsettled.handle (h : Unsettled fates limit stores r now) :
    let answer := now.handle r
    answer.2.1.limit = limit ∧
      ((∃ headers, answer.1 = ⟨200, .obj [], headers⟩ ∧
          verdict limit stores r = .ok answer.2.1.stores) ∨
        ∃ e headers, answer.1 = refuse e headers ∧ verdict limit stores r = .error e ∧
          answer.2.1.stores = stores) := by
  obtain ⟨rfl, kept | ⟨accepted, safe, -⟩⟩ := h
  · cases judged : verdict now.limit stores r with
    | ok after =>
      obtain ⟨headers, response, moved⟩ := handle_of_verdict_ok (kept ▸ judged)
      exact ⟨by rw [moved], .inl ⟨headers, response, by rw [moved]⟩⟩
    | error e =>
      obtain ⟨headers, response, moved⟩ := handle_of_verdict_error (kept ▸ judged)
      exact ⟨by rw [moved], .inr ⟨e, headers, response, rfl, by rw [moved, kept]⟩⟩
  · -- The effect that an earlier attempt had is not repeated.
    obtain ⟨headers, response, moved⟩ := handle_of_verdict_ok (verdict_replay safe accepted)
    exact ⟨by rw [moved], .inl ⟨headers, response, by rw [moved]; exact accepted⟩⟩

/-- What the service itself replies to a request. -/
theorem Settled.of_response {response : Response} (limit_eq : after.limit = limit)
    (served : (∃ headers, response = ⟨200, .obj [], headers⟩ ∧
        verdict limit stores r = .ok after.stores) ∨
      ∃ e headers, response = refuse e headers ∧ verdict limit stores r = .error e ∧
        after.stores = stores) : Settled fates limit stores r (.response response) after := by
  rcases served with ⟨headers, rfl, accepted⟩ | ⟨e, headers, rfl, refused, kept⟩
  · have success : (Reply.response ⟨200, .obj [], headers⟩).isSuccess = true := rfl
    have noFailure := Reply.failureKind?_eq_none_iff.mpr success
    exact ⟨limit_eq, .inr accepted, fun _ => accepted, by simp [success], by simp [noFailure],
      by simp [noFailure]⟩
  · have failed : (Reply.response (refuse e headers)).isSuccess = false :=
      isSuccess_refuse e headers
    exact ⟨limit_eq, .inl kept, by simp [failed], fun _ => .inl kept,
      fun _ _ _ => ⟨kept, e, headers, refused, rfl⟩, fun _ _ => kept⟩

/-- A failure that does not come from the service. -/
theorem Settled.of_failure {kind : FailureKind} (limit_eq : after.limit = limit)
    (atMostOnce : after.stores = stores ∨ verdict limit stores r = .ok after.stores)
    (lost : after.stores = stores ∨ ∃ i, (fates i).LosesReply)
    (named : reply.failureKind? = some kind) (passes : kind.isRetryable = true)
    (throttled : kind = .rateLimit → r.isReplaySafe = false → after.stores = stores) :
    Settled fates limit stores r reply after where
  limit_eq := limit_eq
  atMostOnce := atMostOnce
  success success := by
    rw [Reply.failureKind?_eq_none_iff.mpr success] at named
    simp at named
  failed _ := lost
  refused other same lasting := by
    obtain rfl := Option.some.inj (named.symm.trans same)
    simp [passes] at lasting
  throttled same := throttled (Option.some.inj (named.symm.trans same))

/-- Whatever the network does, an attempt is answered and has its effect once or not at all. -/
theorem settled_lossyLink (watch : Watch) {w : World Remote}
    (h : Unsettled fates limit stores r w.far.service) :
    ∃ reply w', lossyLink fates watch r w = (.answered reply, w') ∧
      w'.cancelled = w.cancelled ∧ Settled fates limit stores r reply w'.far.service := by
  obtain ⟨limit_eq, served⟩ := h.handle
  obtain ⟨arrived, answered, far, cancelled⟩ :=
    link_answers watch r ⟨w.far.service, w.cancelled, w.log⟩
  dsimp only at answered far cancelled
  rw [← far] at limit_eq served
  unfold lossyLink
  simp only [answered]
  cases fate : fates w.far.attempts with
  | delivered => exact ⟨_, _, rfl, cancelled, .of_response limit_eq served⟩
  | requestLost reply kind =>
    refine ⟨reply, _, rfl, rfl, ?_⟩
    -- The service sees nothing of this attempt, so what earlier ones have left is still there.
    have atMostOnce := h.stores_eq.imp_right fun earlier => earlier.1
    have lost := h.stores_eq.imp_right fun earlier => earlier.2.2
    have kept (single : r.isReplaySafe = false) : w.far.service.stores = stores :=
      h.stores_eq.resolve_right fun earlier => by simp [earlier.2.1] at single
    rcases kind with transport | rateLimit | server
    · exact .of_failure h.limit_eq atMostOnce lost transport rfl fun _ => kept
    · exact .of_failure h.limit_eq atMostOnce lost rateLimit rfl fun _ => kept
    · exact .of_failure h.limit_eq atMostOnce lost server rfl fun _ => kept
  | replyLost reply kind =>
    refine ⟨reply, _, rfl, cancelled, ?_⟩
    have atMostOnce : arrived.far.stores = stores ∨
        verdict limit stores r = .ok arrived.far.stores := by
      rcases served with ⟨-, -, accepted⟩ | ⟨-, -, -, -, kept⟩
      · exact .inr accepted
      · exact .inl kept
    have lost : ∃ i, (fates i).LosesReply := ⟨w.far.attempts, fate ▸ trivial⟩
    -- The client is never told that it is throttled when its request was served.
    rcases kind with transport | server
    · exact .of_failure limit_eq atMostOnce (.inr lost) transport rfl (by simp)
    · exact .of_failure limit_eq atMostOnce (.inr lost) server rfl (by simp)

/-- What the failure that a reply stands for tells about the stores. -/
theorem Settled.of_error {call : CallMetadata} {failure : Failure}
    (h : Settled fates limit stores r reply after) (rejected : reply.result call = .error failure) :
    ((∀ i, ¬ (fates i).LosesReply) → after.stores = stores) ∧
      (failure.isRetryable = false → after.stores = stores ∧
        ∃ e headers, verdict limit stores r = .error e ∧
          failure = .ofResponse (some e.status) e.body (some headers) call) ∧
      (failure.kind = .rateLimit → r.isReplaySafe = false → after.stores = stores) := by
  have named := Reply.result_kind rejected
  refine ⟨fun lossless => ?_, fun lasting => ?_, fun throttled => ?_⟩
  · exact (h.failed (Reply.isSuccess_eq_false rejected)).resolve_right (by simpa using lossless)
  · obtain ⟨kept, e, headers, refused, rfl⟩ := h.refused _ named lasting
    have failed := isSuccess_refuse e headers
    rw [Reply.result, if_neg (by simp [failed])] at rejected
    exact ⟨kept, e, headers, refused, (Except.error.inj rejected).symm⟩
  · exact h.throttled (named.trans (congrArg some throttled))

end Service

/-! ## All attempts at a request -/

namespace RetryPolicy

/-- A request is sent again if its reply is a failure and it may be replayed or was throttled. -/
theorem decision_eq_retry {safe : Bool} {reply : Reply} {kind : FailureKind}
    (h : decision safe reply = .retry kind) :
    reply.failureKind? = some kind ∧ (safe = true ∨ kind = .rateLimit) := by
  unfold decision at h
  cases named : reply.failureKind? with
  | none => simp [named] at h
  | some k =>
    simp only [named] at h
    split at h; · simp at h
    split at h; · simp at h
    next again =>
    obtain rfl := Decision.retry.inj h
    refine ⟨rfl, ?_⟩
    cases safe with
    | true => exact .inl rfl
    | false => exact .inr (by simpa using again)

variable {fates : ℕ → Fate} {limit : ℕ} {stores : Table String Store} {r : Request}

/-- Before a request is sent again, it has had no effect or may be replayed. -/
theorem unsettled_of_retry {reply : Reply} {after : Service} {kind : FailureKind}
    (h : Service.Settled fates limit stores r reply after)
    (again : decision r.isReplaySafe reply = .retry kind) :
    Service.Unsettled fates limit stores r after := by
  obtain ⟨named, replayable⟩ := decision_eq_retry again
  have failed : reply.isSuccess = false := by
    rw [Bool.eq_false_iff, Ne, ← Reply.failureKind?_eq_none_iff, named]
    simp
  refine ⟨h.limit_eq, ?_⟩
  rcases h.atMostOnce, h.failed failed with ⟨kept | accepted, kept | lost⟩
  · exact .inl kept
  · exact .inl kept
  · exact .inl kept
  · cases safe : r.isReplaySafe with
    | true => exact .inr ⟨accepted, rfl, lost⟩
    | false =>
      -- Only throttling makes the client repeat such a request, and then it has not been served.
      obtain rfl := replayable.resolve_left (by simp [safe])
      exact .inl (h.throttled named safe)

variable (p : RetryPolicy) (chance : ℕ → Chance) {watch : Watch}

/-- All attempts at a request together have its effect once or not at all. -/
theorem settled_attempts (attempt remaining : ℕ) {w : World Remote}
    (running : w.isStopped watch = false)
    (h : Service.Unsettled fates limit stores r w.far.service) :
    ∃ reply w', p.attempts chance (Service.lossyLink fates) watch r attempt remaining w =
        (.answered reply, w') ∧
      w'.cancelled = w.cancelled ∧ Service.Settled fates limit stores r reply w'.far.service := by
  -- Every attempt finds the request unsettled, whatever the attempts before it came to.
  induction remaining generalizing attempt w with
  | zero => exact Service.settled_lossyLink watch h
  | succ remaining ih =>
    obtain ⟨reply, w₁, called, cancelled, settled⟩ := Service.settled_lossyLink watch h
    rcases p.attempts_of_answered chance attempt remaining called with
      ⟨-, handedOn, far, flag⟩ | ⟨kind, again, next, far, flag, ⟨stopped, -⟩ | ⟨-, goesOn⟩⟩
    · exact ⟨reply, _, Prod.ext handedOn rfl, flag.trans cancelled, far ▸ settled⟩
    · rw [World.isStopped_congr cancelled, running] at stopped
      simp at stopped
    · have token : next.cancelled = w.cancelled := flag.trans cancelled
      have unsettled : Service.Unsettled fates limit stores r next.far.service :=
        far ▸ unsettled_of_retry settled again
      obtain ⟨reply', w', ended, cancelled', settled'⟩ :=
        ih (attempt + 1) ((World.isStopped_congr token watch).trans running) unsettled
      exact ⟨reply', w', goesOn.trans ended, cancelled'.trans token, settled'⟩

end RetryPolicy

/-! ## Whole transactions -/

namespace Transaction

variable {limit : ChunkLimit} {cs : ChangeSet} {policy : ConflictPolicy} {call : CallMetadata}
  {watch : Watch} {storeId : String}

/-- The stores are those of a service that has served some requests and lost none of its replies. -/
structure InStep (w : World Remote) (requests : List Request) (served : Service) (far : Remote)
    (flag : Bool) : Prop where
  flag_eq : flag = w.cancelled
  ran : w.far.service.serveAll requests = some served
  stores_eq : far.service.stores = served.stores
  limit_eq : far.service.limit = served.limit

section

variable {fates : ℕ → Fate} {w : World Remote} {requests : List Request} {served : Service}

/-- The next request is settled. -/
theorem InStep.settled {u : World Remote} (h : InStep w requests served u.far u.cancelled)
    (p : RetryPolicy) (chance : ℕ → RetryPolicy.Chance) (running : w.isStopped watch = false)
    (r : Request) :
    ∃ reply u', p.link chance (Service.lossyLink fates) watch r u = (.answered reply, u') ∧
      u'.cancelled = u.cancelled ∧
      Service.Settled fates served.limit served.stores r reply u'.far.service :=
  p.settled_attempts chance 0 p.maxRetries ((World.isStopped_congr h.flag_eq watch).trans running)
    ⟨h.limit_eq, .inl h.stores_eq⟩

/-- A request that has had its effect is one more that is served. -/
theorem InStep.serve {far : Remote} {flag : Bool} (h : InStep w requests served far flag)
    {r : Request} {stores : Table String Store}
    (accepted : Service.verdict served.limit served.stores r = .ok stores) :
    w.far.service.serveAll (requests ++ [r]) =
      some { served with stores, calls := served.calls + 1 } := by
  rw [Service.serveAll_concat, h.ran]
  exact Service.serve_of_verdict_ok accepted

end

variable (limit cs policy watch) in
/-- Over a lossy network and with retries, the stores end up as after the chunks that succeeded, or
as after the failed chunk as well. The latter happens only if a reply was lost and the failure may
pass by itself; a failure that does not is what the service says to the chunk. A throttled chunk
that must not be replayed has had no effect. -/
theorem execute_lossy (p : RetryPolicy) (chance : ℕ → RetryPolicy.Chance) (fates : ℕ → Fate)
    (w : World Remote) (stored : storeId? call = some storeId)
    (running : w.isStopped watch = false) :
    let t : Transaction := ⟨storeId, policy, call, watch⟩
    let n := cs.size ⌈/⌉ limit.tuples
    let run (j : ℕ) := w.far.service.serveAll (firstRequests limit cs t j)
    let result := execute (p.link chance (Service.lossyLink fates)) limit cs policy call watch w
    let after := result.2.far.service
    (∀ summary, result.1 = .success summary →
      summary = ⟨n, cs.writes.length, cs.deletes.length⟩ ∧
        ∃ served, run n = some served ∧ after.stores = served.stores) ∧
    ∀ failure k, result.1 = .failed failure k → k < n ∧
      ∃ served, run k = some served ∧
        (after.stores = served.stores ∨
          ∃ more, run (k + 1) = some more ∧ after.stores = more.stores) ∧
        ((∀ i, ¬ (fates i).LosesReply) → after.stores = served.stores) ∧
        (failure.isRetryable = false → after.stores = served.stores ∧
          let response := (served.handle (t.request (cs.chunkAt limit k))).1
          response.status ≠ 200 ∧ ∃ headers, failure =
            .ofResponse (some response.status) response.body (some headers) call) ∧
        (failure.kind = .rateLimit → (t.request (cs.chunkAt limit k)).isReplaySafe = false →
          after.stores = served.stores) := by
  intro t n run result after
  have count : cs.chunkCount limit = n := cs.chunkCount_eq_ceilDiv limit
  -- The attempts that the network spoils leave no trace in what is said about `i` successes.
  let P : ℕ → Remote → Bool → Prop := fun i far flag =>
    ∃ served, InStep w (firstRequests limit cs t i) served far flag
  have start : P 0 w.far w.cancelled := ⟨w.far.service, rfl, rfl, rfl, rfl⟩
  have preserved : t.Preserved (p.link chance (Service.lossyLink fates)) (cs.split limit) P := by
    rintro i chunk u u' found ⟨served, inStep⟩ succeeded
    obtain ⟨-, rfl⟩ := (cs.getElem?_split_eq_some limit).mp found
    obtain ⟨-, reply, u₁, called, success, far, flag⟩ := sendChunk_eq_none succeeded
    obtain ⟨reply', u₂, answered, kept, settled⟩ := inStep.settled p chance running
      (t.request (cs.chunkAt limit i))
    obtain ⟨replied, rfl⟩ := Prod.mk.inj (called.symm.trans answered)
    obtain rfl := Flight.answered.inj replied
    refine ⟨{ served with stores := u₁.far.service.stores, calls := served.calls + 1 },
      flag.trans (kept.trans inStep.flag_eq), ?_, congrArg (·.service.stores) far, ?_⟩
    · rw [firstRequests_succ]
      exact inStep.serve (settled.success success)
    · rw [far, settled.limit_eq]
  rcases execute_cases w stored preserved start with
    ⟨ended, served, inStep⟩ |
      ⟨i, w₁, w₂, failure, inside, ⟨served, inStep⟩, failed, ended, far, -⟩
  · refine ⟨fun summary success => ?_, fun failure k failed => ?_⟩
    · obtain rfl := Outcome.success.inj (ended.symm.trans success)
      exact ⟨by rw [totals, count], served, count ▸ inStep.ran, inStep.stores_eq⟩
    · exact absurd failed (Outcome.success_ne_failed ended)
  · refine ⟨fun summary success => absurd ended (Outcome.success_ne_failed success), ?_⟩
    intro failure' k ended'
    obtain ⟨rfl, rfl⟩ := Outcome.failed.inj (ended.symm.trans ended')
    refine ⟨count ▸ inside, served, inStep.ran, ?_⟩
    obtain ⟨reply, u, answered, -, settled⟩ := inStep.settled p chance running
      (t.request (cs.chunkAt limit i))
    rcases sendChunk_eq_some failed with
      ⟨stopped, -⟩ | ⟨-, abandoned, -⟩ | ⟨-, reply', answered', rejected⟩
    · rw [World.isStopped_congr inStep.flag_eq, running] at stopped
      simp at stopped
    · exact absurd (Prod.mk.inj (answered.symm.trans abandoned)).1 (by simp)
    · obtain ⟨replied, rfl⟩ := Prod.mk.inj (answered.symm.trans answered')
      obtain rfl := Flight.answered.inj replied
      obtain ⟨lossless, lasting, throttled⟩ := settled.of_error rejected
      have left : after = u.far.service := congrArg Remote.service far
      rw [left]
      refine ⟨?_, lossless, fun remains => ?_, throttled⟩
      · refine settled.atMostOnce.imp_right fun accepted =>
          ⟨{ served with stores := u.far.service.stores, calls := served.calls + 1 }, ?_, rfl⟩
        simp only [run, firstRequests_succ]
        exact inStep.serve accepted
      · obtain ⟨kept, e, headers, refused, cause⟩ := lasting remains
        obtain ⟨headers', response, -⟩ := Service.handle_of_verdict_error refused
        rw [response]
        exact ⟨kept, Service.status_refuse_ne e headers', headers, cause⟩

/-- The reply to the first request of a handover gets lost, and the request is replayed. -/
theorem execute_lossy_handover :
    let lost : Reply := .failure ⟨.timeout, "no reply"⟩
    let fates (i : ℕ) : Fate := if i = 0 then .replyLost lost (.inl rfl) else .delivered
    let s := Service.createStore {} "s"
    let t : Transaction := ⟨"s", .idempotent, { storeId := some "s" }, .token⟩
    let result := execute (RetryPolicy.link {} (fun _ => 0) (Service.lossyLink fates))
      ⟨1, by decide⟩ ChangeSet.handover .idempotent { storeId := some "s" } .token
      ⟨⟨s, 0⟩, false, []⟩
    result.1 = .success ⟨2, 1, 1⟩ ∧ result.2.far.attempts = 3 ∧
      ∃ served, s.serveAll (firstRequests ⟨1, by decide⟩ ChangeSet.handover t 2) = some served ∧
        result.2.far.service.stores = served.stores := by
  intro lost fates s t result
  have succeeded : result.1 = .success ⟨2, 1, 1⟩ := by rfl
  have stored : storeId? { storeId := some "s" } = some "s" := by decide
  have run := (execute_lossy ⟨1, by decide⟩ ChangeSet.handover .idempotent .token {} (fun _ => 0)
    fates ⟨⟨s, 0⟩, false, []⟩ stored rfl).1 _ succeeded
  exact ⟨succeeded, by rfl, run.2⟩

end Transaction

end TupleClient
