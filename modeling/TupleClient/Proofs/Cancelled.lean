import TupleClient.Proofs.Scripted
import TupleClient.Retry

/-!
# Transactions that are cancelled

A caller who watches the token may cancel it before a transaction starts or while any of its calls
is served. The transaction then ends before the next chunk, or at once where a call waits; a reply
that is there at once still counts. No request follows a cancellation. With retries there is one
exception: an empty pause may be over before the caller can give up in it, and then the request is
repeated.

## Main definitions

* `Script.Overtaken` — a call is not answered at once, and the token is cancelled by then
* `Script.EndsAt` — a transaction does not get beyond a call
* `Script.InTime` — what was sent after the token was cancelled only repeats what was sent before
* `RetryPolicy.RetriedAtOnce` — a reply is retried, and there is no moment to give up before that

## Main results

* `RetryPolicy.attempts_leftInTime` — repetitions are sent in time, except after an empty pause
* `Transaction.execute_cancellable_script` — how a transaction ends when its token may be cancelled
* `Transaction.not_inTime_throttled` — without pauses, a request may follow the cancellation
-/

namespace TupleClient

/-- The reply is there when the caller first looks. -/
def ScriptedReply.isReady (e : ScriptedReply) : Bool := !e.waits && !e.hangs

namespace Script

variable (cancelled : Bool) (replies : List ScriptedReply)

/-- The reply to the call with a number is not there when the caller first looks, and the token is
cancelled by then. -/
def Overtaken (i : ℕ) : Prop :=
  (replyTo replies i).isReady = false ∧ CancelledBefore cancelled replies (i + 1)

/-- A transaction that watches the token does not get beyond the call with a number: the token is
cancelled before the call is made, the call is overtaken, or its reply is used and is no success. -/
def EndsAt (i : ℕ) : Prop :=
  CancelledBefore cancelled replies i ∨ Overtaken cancelled replies i ∨
    (¬ Overtaken cancelled replies i ∧ (replyTo replies i).reply.isSuccess = false)

/-- Every request is sent before the token is cancelled, or it repeats the one just before it, which
may be repeated. -/
def InTime (mayRepeat : ℕ → Request → Prop) (requests : List Request) : Prop :=
  ∀ j r, requests[j]? = some r → CancelledBefore cancelled replies j →
    ∃ i, j = i + 1 ∧ requests[i]? = some r ∧ mayRepeat i r

/-- The call with a number is the first one for what it sends: it is the first of all, or the call
before it is answered with a success. -/
def Opens (i : ℕ) : Prop := ∀ k, i = k + 1 → (replyTo replies k).reply.isSuccess = true

/-- A script has been played so far, and every request was sent in time. -/
structure SentInTime (mayRepeat : ℕ → Request → Prop) (far : Script) (flag : Bool) : Prop where
  reached : Reached cancelled replies far.requests.length far flag
  inTime : InTime cancelled replies mayRepeat far.requests

/-- A call leaves a script in which every request was sent in time, and if it was answered with a
success, the next call is the first one for what it sends. -/
structure LeftInTime (mayRepeat : ℕ → Request → Prop) (called : Flight × World Script) : Prop where
  sent : SentInTime cancelled replies mayRepeat called.2.far called.2.cancelled
  opens : ∀ reply, called.1 = .answered reply → reply.isSuccess = true →
    Opens replies called.2.far.requests.length

variable {cancelled replies}

theorem givenUp_token_iff (arrives : ∀ e ∈ replies, e.hangs = true → e.cancels = true) {i : ℕ} :
    GivenUp .token cancelled replies i ↔ Overtaken cancelled replies i := by
  have arrives := forall_replyTo arrives (by simp [exhausted]) i
  simp only [GivenUp, Overtaken, ScriptedReply.isReady, cancelledBefore_succ, true_and]
  constructor
  · rintro (hangs | ⟨waits, seen⟩)
    · exact ⟨by simp [hangs], .inr (arrives hangs)⟩
    · exact ⟨by simp [waits], seen⟩
  · rintro ⟨notReady, seen⟩
    -- What is not ready either never comes or is late, and the caller watches the token.
    by_cases hangs : (replyTo replies i).hangs = true
    · exact .inl hangs
    · exact .inr ⟨by simpa [hangs] using notReady, seen⟩

theorem answered_token_iff (arrives : ∀ e ∈ replies, e.hangs = true → e.cancels = true) {i : ℕ} :
    Answered .token cancelled replies i ↔ ¬ EndsAt cancelled replies i := by
  constructor
  · rintro ⟨running, kept, success⟩ (early | overtaken | ⟨-, failed⟩)
    · exact running ⟨rfl, early⟩
    · exact kept ((givenUp_token_iff arrives).mpr overtaken)
    · simp [success] at failed
  · intro goesOn
    simp only [EndsAt, not_or, not_and, Bool.not_eq_false] at goesOn
    obtain ⟨running, kept, success⟩ := goesOn
    exact ⟨fun seen => running seen.2, mt (givenUp_token_iff arrives).mp kept, success kept⟩

/-- If nothing may be repeated, everything is sent before the token is cancelled. -/
theorem InTime.not_cancelledBefore {requests : List Request}
    (h : InTime cancelled replies (fun _ _ => False) requests) {j : ℕ}
    (made : j < requests.length) : ¬ CancelledBefore cancelled replies j := fun before => by
  obtain ⟨-, -, -, never⟩ := h j requests[j] (List.getElem?_eq_getElem made) before
  exact never

variable {mayRepeat : ℕ → Request → Prop} {w : World Script} {request : Request}

/-- One more request is sent in time if the token is not cancelled yet, or if it repeats the last
one, which may be repeated. -/
theorem SentInTime.link (h : SentInTime cancelled replies mayRepeat w.far w.cancelled)
    (excused : w.cancelled = true → ∃ i, w.far.requests.length = i + 1 ∧
      w.far.requests[i]? = some request ∧ mayRepeat i request) :
    let called := Script.link .token request w
    called.2.far.requests = w.far.requests ++ [request] ∧
      LeftInTime cancelled replies mayRepeat called := by
  obtain ⟨flight, w', called, reached, recorded, answer⟩ := link_cases .token request h.reached
  have appended : w'.far.requests = w.far.requests ++ [request] := by simp [requests, recorded]
  simp only [called]
  refine ⟨appended, ⟨by simpa [appended] using reached, fun j r made before => ?_⟩,
    fun reply answered success k last => ?_⟩
  · rw [appended] at made ⊢
    obtain ⟨here, -⟩ := List.getElem?_eq_some_iff.mp made
    rcases Nat.lt_succ_iff_lt_or_eq.mp (by simpa using here) with earlier | rfl
    · rw [List.getElem?_append_left earlier] at made
      obtain ⟨i, rfl, same, again⟩ := h.inTime j r made before
      exact ⟨i, rfl, by rwa [List.getElem?_append_left (by omega)], again⟩
    · obtain rfl : request = r := by simpa using made
      obtain ⟨i, last, same, again⟩ := excused (h.reached.flag_iff.mpr before)
      exact ⟨i, last, by rwa [List.getElem?_append_left (by omega)], again⟩
  · obtain rfl : w.far.requests.length = k := by simpa [appended] using last
    obtain ⟨rfl, -⟩ | ⟨rfl, -⟩ := answer
    · simp at answered
    · obtain rfl := Flight.answered.inj answered
      exact success

end Script

namespace RetryPolicy

open Script

/-- The call with a number is the attempt `a` at a request, counted from zero. Its reply is retried,
and the pause before that is empty and over before the caller can give up in it. -/
def RetriedAtOnce (p : RetryPolicy) (chance : ℕ → Chance) (replies : List ScriptedReply) (i : ℕ)
    (r : Request) : Prop :=
  ∃ first a, i = first + a ∧ Opens replies first ∧
    (∀ b ≤ a, ∃ kind, decision r.isReplaySafe (replyTo replies (first + b)).reply = .retry kind) ∧
    a < p.maxRetries ∧ p.delay a (chance a).jitter = 0 ∧ (chance a).passesEmpty = true

variable {cancelled : Bool} {replies : List ScriptedReply} (p : RetryPolicy) (chance : ℕ → Chance)

/-- All attempts at a request are made in time, except after an empty pause that is over at once. -/
theorem attempts_leftInTime (request : Request) (attempt remaining : ℕ)
    (total : attempt + remaining = p.maxRetries) {first : ℕ} (opens : Opens replies first)
    (retried : ∀ b < attempt, ∃ kind,
      decision request.isReplaySafe (replyTo replies (first + b)).reply = .retry kind)
    {w : World Script} (made : w.far.requests.length = first + attempt)
    (sent : SentInTime cancelled replies (p.RetriedAtOnce chance replies) w.far w.cancelled)
    (excused : w.cancelled = true → ∃ i, w.far.requests.length = i + 1 ∧
      w.far.requests[i]? = some request ∧ p.RetriedAtOnce chance replies i request) :
    LeftInTime cancelled replies (p.RetriedAtOnce chance replies)
      (p.attempts chance Script.link .token request attempt remaining w) := by
  -- An attempt starts before the cancellation, or after the same request and an empty pause. The
  -- next one starts so as well, and the hypotheses are general in `w`.
  induction remaining generalizing attempt w with
  | zero => exact (sent.link excused).2
  | succ remaining ih =>
    obtain ⟨appended, left⟩ := sent.link excused
    obtain ⟨flight, w₁, called, -, -, answer⟩ := link_cases .token request sent.reached
    simp only [called] at appended left
    rcases answer with ⟨rfl, -⟩ | ⟨rfl, -⟩
    · rwa [p.attempts_of_abandoned chance attempt (remaining + 1) called]
    · rcases p.attempts_of_answered chance attempt remaining called with
        ⟨-, handedOn, far, flag⟩ | ⟨kind, decided, next, far, flag, ⟨-, -, ended⟩ | ⟨kept, goesOn⟩⟩
      · exact ⟨by rw [far, flag]; exact left.sent, by rw [handedOn, far]; exact left.opens⟩
      · rw [ended]
        exact ⟨by rw [far, flag]; exact left.sent, by simp⟩
      · rw [goesOn]
        have sentNext := left.sent
        rw [← far, ← flag] at sentNext
        rw [← far] at appended
        have again : ∀ b ≤ attempt, ∃ kind,
            decision request.isReplaySafe (replyTo replies (first + b)).reply = .retry kind := by
          intro b le
          rcases lt_or_eq_of_le le with earlier | rfl
          · exact retried b earlier
          · exact ⟨kind, made ▸ decided⟩
        refine ih (attempt + 1) (by omega) (fun b earlier => again b (by omega))
          (by simp [appended, made, Nat.add_assoc]) sentNext fun cancelledNow => ?_
        -- The caller did not give up although the token is cancelled, so the pause was over.
        have passed : p.delay attempt (chance attempt).jitter = 0 ∧
            (chance attempt).passesEmpty = true := by
          simpa [passes] using kept (flag.symm.trans cancelledNow)
        exact ⟨w.far.requests.length, by simp [appended], by simp [appended],
          first, attempt, made, opens, again, by omega, passed⟩

end RetryPolicy

namespace Transaction

open Script

variable {limit : ChunkLimit} {cs : ChangeSet} {policy : ConflictPolicy} {call : CallMetadata}
  {storeId : String} {cancelled : Bool} {replies : List ScriptedReply}

variable (limit cs policy cancelled replies) in
/-- Over a link that sends in time while the token is not cancelled, a whole transaction does. -/
theorem execute_inTime (stored : storeId? call = some storeId) (link : Link Script)
    (mayRepeat : ℕ → Request → Prop)
    (keeps : ∀ (request : Request) (w : World Script), w.cancelled = false →
      SentInTime cancelled replies mayRepeat w.far w.cancelled →
      Opens replies w.far.requests.length →
      LeftInTime cancelled replies mayRepeat (link .token request w))
    (log : List Trace) :
    let result := execute link limit cs policy call .token ⟨⟨replies, []⟩, cancelled, log⟩
    InTime cancelled replies mayRepeat result.2.far.requests := by
  intro result
  suffices sent : SentInTime cancelled replies mayRepeat result.2.far result.2.cancelled from
    sent.inTime
  have start : SentInTime cancelled replies mayRepeat ⟨replies, []⟩ cancelled :=
    ⟨⟨rfl, by simp [CancelledBefore, Script.requests]⟩, by simp [InTime, Script.requests]⟩
  let t : Transaction := ⟨storeId, policy, call, .token⟩
  have preserved : t.Preserved link (cs.split limit) fun _ far flag =>
      SentInTime cancelled replies mayRepeat far flag ∧ Opens replies far.requests.length := by
    rintro i chunk w w' found ⟨sent, opens⟩ succeeded
    obtain ⟨running, reply, w₁, called, success, far, flag⟩ := sendChunk_eq_none succeeded
    have left := keeps (t.request chunk) w running sent opens
    rw [called] at left
    rw [far, flag]
    exact ⟨left.sent, left.opens reply rfl success⟩
  rcases execute_cases ⟨⟨replies, []⟩, cancelled, log⟩ stored preserved
      ⟨start, by simp [Opens, Script.requests]⟩ with
    ⟨-, sent, -⟩ | ⟨i, w₁, w₂, failure, -, ⟨sent, opens⟩, failed, -, far, flag⟩
  · exact sent
  · rw [far, flag]
    rcases sendChunk_eq_some failed with
      ⟨-, -, rfl⟩ | ⟨running, called, -⟩ | ⟨running, reply, called, -⟩
    · exact sent
    all_goals
      have left := keeps (t.request (cs.chunkAt limit i)) w₁ running sent opens
      rw [called] at left
      exact left.sent

variable (limit cs policy cancelled) in
/-- A transaction that watches the token ends at the first call that it does not get beyond. -/
theorem execute_cancellable_cases (stored : storeId? call = some storeId) (log : List Trace)
    (arrives : ∀ e ∈ replies, e.hangs = true → e.cancels = true) :
    let sent := firstRequests limit cs ⟨storeId, policy, call, .token⟩
    let result := execute Script.link limit cs policy call .token ⟨⟨replies, []⟩, cancelled, log⟩
    ((∀ j < cs.chunkCount limit, ¬ EndsAt cancelled replies j) ∧
        result.1 = .success (totals limit cs) ∧
          result.2.far.requests = sent (cs.chunkCount limit)) ∨
      ∃ i < cs.chunkCount limit, (∀ j < i, ¬ EndsAt cancelled replies j) ∧
        EndsAt cancelled replies i ∧
        (CancelledBefore cancelled replies i →
          result.1 = .failed (.cancellation call) i ∧ result.2.far.requests = sent i) ∧
        (¬ CancelledBefore cancelled replies i → Overtaken cancelled replies i →
          result.1 = .failed (.cancellation call) i ∧ result.2.far.requests = sent (i + 1)) ∧
        (¬ CancelledBefore cancelled replies i → ¬ Overtaken cancelled replies i →
          ∃ failure, (replyTo replies i).reply.result call = .error failure ∧
            result.1 = .failed failure i ∧ result.2.far.requests = sent (i + 1)) := by
  intro sent result
  have cases := execute_script_cases limit cs policy .token stored replies cancelled log
  simp only [answered_token_iff arrives, givenUp_token_iff arrives, true_and] at cases
  rcases cases with success | ⟨i, inside, before, atEnd⟩
  · exact .inl success
  · refine .inr ⟨i, inside, before, ?_⟩
    rcases atEnd with ⟨early, ended⟩ | ⟨running, overtaken, ended⟩ | ⟨running, kept, ended⟩
    · exact ⟨.inl early, fun _ => ended, absurd early, absurd early⟩
    · exact ⟨.inr (.inl overtaken), fun early => absurd early running, fun _ _ => ended,
        fun _ kept => absurd overtaken kept⟩
    · obtain ⟨failure, rejected, ended⟩ := ended
      exact ⟨.inr (.inr ⟨kept, Reply.isSuccess_eq_false rejected⟩),
        fun early => absurd early running, fun _ overtaken => absurd overtaken kept,
        fun _ _ => ⟨failure, rejected, ended⟩⟩

variable (limit cs policy cancelled) in
/-- A reply that is there at once is used: a success counts as one, and a failure ends the
transaction. -/
theorem execute_uses_ready (stored : storeId? call = some storeId) (log : List Trace)
    (arrives : ∀ e ∈ replies, e.hangs = true → e.cancels = true) :
    let result := execute Script.link limit cs policy call .token ⟨⟨replies, []⟩, cancelled, log⟩
    ∀ j < result.2.far.requests.length, (replyTo replies j).isReady = true →
      ((replyTo replies j).reply.isSuccess = true ∧
        ∀ failure i, result.1 = .failed failure i → j < i) ∨
      ∃ failure, (replyTo replies j).reply.result call = .error failure ∧
        result.1 = .failed failure j := by
  intro result j made ready
  have success {j : ℕ} (goesOn : ¬ EndsAt cancelled replies j) :=
    ((answered_token_iff arrives).mpr goesOn).success
  have cases := execute_cancellable_cases limit cs policy cancelled stored log arrives
  rcases cases with ⟨goesOn, ended, recorded⟩ | ⟨i, -, before, -, early, overtaken, failed⟩
  · rw [recorded, length_firstRequests] at made
    refine .inl ⟨success (goesOn j made), fun failure i failed => ?_⟩
    exact absurd failed (Outcome.success_ne_failed ended)
  · have counted {failure : Failure} (earlier : j < i) (ended : result.1 = .failed failure i) :
        ∀ failure k, result.1 = .failed failure k → j < k := by
      intro other k same
      obtain ⟨-, rfl⟩ := Outcome.failed.inj (ended.symm.trans same)
      exact earlier
    -- Only the last call that was made can be the one that the transaction ends at.
    by_cases cancelledNow : CancelledBefore cancelled replies i
    · obtain ⟨ended, recorded⟩ := early cancelledNow
      rw [recorded, length_firstRequests] at made
      exact .inl ⟨success (before j made), counted made ended⟩
    · by_cases overtakenNow : Overtaken cancelled replies i
      · obtain ⟨ended, recorded⟩ := overtaken cancelledNow overtakenNow
        rw [recorded, length_firstRequests] at made
        have notThis : j ≠ i := by
          rintro rfl
          simp [overtakenNow.1] at ready
        have earlier : j < i := by omega
        exact .inl ⟨success (before j earlier), counted earlier ended⟩
      · obtain ⟨failure, rejected, ended, recorded⟩ := failed cancelledNow overtakenNow
        rw [recorded, length_firstRequests] at made
        rcases Nat.lt_succ_iff_lt_or_eq.mp made with earlier | rfl
        · exact .inl ⟨success (before j earlier), counted earlier ended⟩
        · exact .inr ⟨failure, rejected, ended⟩

variable (limit cs policy) in
/-- A transaction that watches the token ends at the first call before which the token is cancelled,
that the cancellation overtakes, or whose reply is used and no success; a token that is cancelled
later, even by the last call, changes nothing. A reply that is there at once is used. Nothing is
sent once the token is cancelled. With retries, what is sent after that only repeats the request
before it, whose reply is retried after an empty pause that was over at once. -/
theorem execute_cancellable_script (stored : storeId? call = some storeId)
    (replies : List ScriptedReply) (cancelled : Bool) (log : List Trace)
    (arrives : ∀ e ∈ replies, e.hangs = true → e.cancels = true) :
    let start : World Script := ⟨⟨replies, []⟩, cancelled, log⟩
    let result := execute Script.link limit cs policy call .token start
    let sent := firstRequests limit cs ⟨storeId, policy, call, .token⟩
    let n := cs.size ⌈/⌉ limit.tuples
    ((∀ j < n, ¬ EndsAt cancelled replies j) →
      result.1 = .success ⟨n, cs.writes.length, cs.deletes.length⟩ ∧
        result.2.far.requests = sent n) ∧
    (∀ i < n, (∀ j < i, ¬ EndsAt cancelled replies j) → EndsAt cancelled replies i →
      (∀ j < i, (replyTo replies j).reply.isSuccess = true) ∧
      (CancelledBefore cancelled replies i →
        result.1 = .failed (.cancellation call) i ∧ result.2.far.requests = sent i) ∧
      (¬ CancelledBefore cancelled replies i → Overtaken cancelled replies i →
        result.1 = .failed (.cancellation call) i ∧ result.2.far.requests = sent (i + 1)) ∧
      (¬ CancelledBefore cancelled replies i → ¬ Overtaken cancelled replies i →
        ∃ failure, (replyTo replies i).reply.result call = .error failure ∧
          result.1 = .failed failure i ∧ result.2.far.requests = sent (i + 1))) ∧
    (∀ j < result.2.far.requests.length, (replyTo replies j).isReady = true →
      ((replyTo replies j).reply.isSuccess = true ∧
        ∀ failure i, result.1 = .failed failure i → j < i) ∨
      ∃ failure, (replyTo replies j).reply.result call = .error failure ∧
        result.1 = .failed failure j) ∧
    (∀ j < result.2.far.requests.length, ¬ CancelledBefore cancelled replies j) ∧
    ∀ (p : RetryPolicy) (chance : ℕ → RetryPolicy.Chance),
      let retried := execute (p.link chance Script.link) limit cs policy call .token start
      InTime cancelled replies (p.RetriedAtOnce chance replies) retried.2.far.requests := by
  intro start result sent n
  have count : cs.chunkCount limit = n := cs.chunkCount_eq_ceilDiv limit
  have cases := execute_cancellable_cases limit cs policy cancelled stored log arrives
  have success {j : ℕ} (goesOn : ¬ EndsAt cancelled replies j) :=
    ((answered_token_iff arrives).mpr goesOn).success
  rw [count] at cases
  refine ⟨?_, ?_, ?_, ?_, ?_⟩
  · intro goesOn
    rcases cases with ⟨-, ended, recorded⟩ | ⟨i, inside, -, ends, -⟩
    · exact ⟨by rw [ended, totals, count], recorded⟩
    · exact absurd ends (goesOn i inside)
  · intro i inside before ends
    refine ⟨fun j earlier => success (before j earlier), ?_⟩
    rcases cases with ⟨goesOn, -⟩ | ⟨k, -, earlier, endsHere, ended⟩
    · exact absurd ends (goesOn i inside)
    · obtain rfl : k = i := first_unique endsHere earlier ends before
      exact ended
  · exact execute_uses_ready limit cs policy cancelled stored log arrives
  · have inTime := execute_inTime limit cs policy cancelled replies stored Script.link
      (fun _ _ => False)
      (fun _ _ running sent _ => (sent.link fun seen => by simp [running] at seen).2) log
    exact fun j made => inTime.not_cancelledBefore made
  · intro p chance
    exact execute_inTime limit cs policy cancelled replies stored (p.link chance Script.link) _
      (fun request _ running sent opens => p.attempts_leftInTime chance request 0 p.maxRetries
        (Nat.zero_add _) opens (by simp) rfl sent fun seen => by simp [running] at seen) log

/-- The first of two calls is answered at once and cancels the token: the second one is not made. -/
theorem execute_cancellable_script_handover :
    let result := execute Script.link ⟨1, by decide⟩ ChangeSet.handover .strict
      { storeId := some "s" } .token ⟨⟨[{ exhausted with cancels := true }], []⟩, false, []⟩
    result.1 = .failed (.cancellation { storeId := some "s" }) 1 ∧
      result.2.far.requests.length = 1 := by
  intro result
  have stored : storeId? { storeId := some "s" } = some "s" := by decide
  have run := execute_cancellable_script ⟨1, by decide⟩ ChangeSet.handover .strict stored
    [{ exhausted with cancels := true }] false [] (by simp [exhausted])
  have cancelled : CancelledBefore false [{ exhausted with cancels := true }] 1 :=
    .inr ⟨0, by decide, rfl⟩
  have goesOn : ¬ EndsAt false [{ exhausted with cancels := true }] 0 := by
    rintro (early | overtaken | ⟨-, failed⟩)
    · simp [CancelledBefore] at early
    · exact absurd overtaken.1 (by decide)
    · exact absurd failed (by decide)
  have second := (run.2.1 1 (by decide) (by simpa using goesOn) (.inl cancelled)).2.1 cancelled
  exact ⟨second.1, by rw [second.2]; rfl⟩

/-- Without pauses, a throttled request is sent again although the token is cancelled by then. -/
theorem not_inTime_throttled :
    let throttled : ScriptedReply := { reply := .response { status := 429 }, cancels := true }
    let p : RetryPolicy := { minWait := 0 }
    let result := execute (p.link (fun _ => 0) Script.link) ⟨2, by decide⟩ ChangeSet.handover
      .strict { storeId := some "s" } .token ⟨⟨[throttled], []⟩, false, []⟩
    ¬ ∀ j < result.2.far.requests.length, ¬ CancelledBefore false [throttled] j := by
  intro throttled p result inTime
  have again : result.2.far.requests.length = 2 := by decide
  exact inTime 1 (by omega) (.inr ⟨0, by decide, rfl⟩)

-- It is not sent again if there are pauses, or if the timer takes a moment for an empty one.
example :
    let throttled : ScriptedReply := { reply := .response { status := 429 }, cancels := true }
    let sent (p : RetryPolicy) (empty : Bool) :=
      (execute (p.link (fun _ => ⟨0, empty⟩) Script.link) ⟨2, by decide⟩ ChangeSet.handover .strict
        { storeId := some "s" } .token ⟨⟨[throttled], []⟩, false, []⟩).2.far.requests.length
    sent {} true = 1 ∧ sent { minWait := 0 } false = 1 := by
  decide

end Transaction

end TupleClient
