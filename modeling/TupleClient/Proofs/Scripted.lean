import TupleClient.Proofs.ChunkLoop
import TupleClient.Script

/-!
# Transactions over a scripted link

A script says for every call what its reply is, whether the reply is there at once, and whether the
caller's token is cancelled while the call is served. What becomes of a transaction is then read off
the script: it ends at the first call that is not made, is given up, or is answered with a failure.

## Main definitions

* `Script.replyTo` — the reply to the call with a number
* `Script.CancelledBefore` — the token is cancelled by the time a call is made
* `Script.GivenUp` — the call with a number is given up
* `Script.Answered` — the call with a number is made, and its reply is used and a success

## Main results

* `Transaction.execute_script_cases` — how a transaction ends over any script
* `Transaction.execute_script` — what it sends and how it ends while nobody cancels
-/

namespace TupleClient

namespace Script

variable (watch : Watch) (cancelled : Bool) (replies : List ScriptedReply)

/-- The reply to the call with a number, counted from zero. -/
def replyTo (i : ℕ) : ScriptedReply := replies[i]?.getD exhausted

/-- The token is cancelled before the call with a number is made: it was from the beginning, or an
earlier call cancelled it. -/
def CancelledBefore (i : ℕ) : Prop := cancelled = true ∨ ∃ j < i, (replyTo replies j).cancels = true

/-- The call with a number is given up: its reply never comes, or its reply is not there at first
and the caller sees that the token is cancelled. -/
def GivenUp (i : ℕ) : Prop :=
  (replyTo replies i).hangs = true ∨
    ((replyTo replies i).waits = true ∧ watch = .token ∧ CancelledBefore cancelled replies (i + 1))

/-- The call with a number is made, and its reply is used and a success. -/
structure Answered (i : ℕ) : Prop where
  running : ¬ (watch = .token ∧ CancelledBefore cancelled replies i)
  kept : ¬ GivenUp watch cancelled replies i
  success : (replyTo replies i).reply.isSuccess = true

variable {watch cancelled replies}

theorem forall_replyTo {p : ScriptedReply → Prop} (all : ∀ e ∈ replies, p e) (none : p exhausted)
    (i : ℕ) : p (replyTo replies i) := by
  unfold replyTo
  cases found : replies[i]? with
  | none => exact none
  | some e => exact all e (List.mem_of_getElem? found)

theorem cancelledBefore_succ {i : ℕ} :
    CancelledBefore cancelled replies (i + 1) ↔
      CancelledBefore cancelled replies i ∨ (replyTo replies i).cancels = true := by
  simp only [CancelledBefore, Nat.lt_succ_iff_lt_or_eq]
  constructor
  · rintro (initial | ⟨j, earlier | rfl, cancels⟩)
    · exact .inl (.inl initial)
    · exact .inl (.inr ⟨j, earlier, cancels⟩)
    · exact .inr cancels
  · rintro ((initial | ⟨j, earlier, cancels⟩) | cancels)
    · exact .inl initial
    · exact .inr ⟨j, .inl earlier, cancels⟩
    · exact .inr ⟨i, .inr rfl, cancels⟩

theorem CancelledBefore.mono {i j : ℕ} (h : CancelledBefore cancelled replies i) (le : i ≤ j) :
    CancelledBefore cancelled replies j :=
  h.imp id fun ⟨k, earlier, cancels⟩ => ⟨k, lt_of_lt_of_le earlier le, cancels⟩

/-! ## One call -/

/-- The world is where a script is after `i` calls. -/
structure Reached (cancelled : Bool) (replies : List ScriptedReply) (i : ℕ) (far : Script)
    (flag : Bool) : Prop where
  replies_eq : far.replies = replies.drop i
  flag_iff : flag = true ↔ CancelledBefore cancelled replies i

variable (watch) in
theorem isStopped_iff {i : ℕ} {w : World Script}
    (reached : Reached cancelled replies i w.far w.cancelled) :
    w.isStopped watch = true ↔ watch = .token ∧ CancelledBefore cancelled replies i := by
  cases watch <;> simp [World.isStopped, reached.flag_iff]

variable (watch) in
/-- A call takes the next reply, records its request, and is given up or answered. -/
theorem link_cases {i : ℕ} {w : World Script} (request : Request)
    (reached : Reached cancelled replies i w.far w.cancelled) :
    ∃ flight w', link watch request w = (flight, w') ∧
      Reached cancelled replies (i + 1) w'.far w'.cancelled ∧
      w'.far.recorded = request :: w.far.recorded ∧
      ((flight = .abandoned ∧ GivenUp watch cancelled replies i) ∨
        (flight = .answered (replyTo replies i).reply ∧ ¬ GivenUp watch cancelled replies i)) := by
  have entry : w.far.replies.headD exhausted = replyTo replies i := by
    simp [reached.replies_eq, replyTo, List.headD_eq_head?_getD, List.head?_drop]
  have served : Reached cancelled replies (i + 1) (w.far.next request)
      (w.cancelled || (replyTo replies i).cancels) :=
    ⟨by simp [next, reached.replies_eq], by simp [cancelledBefore_succ, reached.flag_iff]⟩
  -- The script moves on in the same way whether or not its reply is used.
  have stopped := isStopped_iff watch
    (w := ⟨w.far.next request, w.cancelled || (replyTo replies i).cancels, w.log⟩) served
  simp only [link, entry]
  by_cases hangs : (replyTo replies i).hangs = true
  · exact ⟨_, _, if_pos hangs, served, rfl, .inl ⟨rfl, .inl hangs⟩⟩
  · rw [if_neg hangs]
    by_cases waits : (replyTo replies i).waits = true ∧
        watch = .token ∧ CancelledBefore cancelled replies (i + 1)
    · refine ⟨_, _, if_pos ?_, served, rfl, .inl ⟨rfl, .inr waits⟩⟩
      simpa [stopped] using waits
    · refine ⟨_, _, if_neg ?_, served, rfl, .inr ⟨rfl, fun givenUp => ?_⟩⟩
      · simpa [stopped] using waits
      · exact givenUp.elim hangs waits

end Script

namespace Transaction

open Script

variable {limit : ChunkLimit} {cs : ChangeSet} {policy : ConflictPolicy} {call : CallMetadata}
  {watch : Watch} {storeId : String}

/-! ## Whole transactions -/

variable (limit cs policy watch) in
/-- Over any script, either every call is answered with a success, or the transaction ends at the
first call that is not made, is given up, or is answered with a failure. -/
theorem execute_script_cases (stored : storeId? call = some storeId)
    (replies : List ScriptedReply) (cancelled : Bool) (log : List Trace) :
    let sent := firstRequests limit cs ⟨storeId, policy, call, watch⟩
    let result := execute Script.link limit cs policy call watch ⟨⟨replies, []⟩, cancelled, log⟩
    ((∀ j < cs.chunkCount limit, Answered watch cancelled replies j) ∧
        result.1 = .success (totals limit cs) ∧
          result.2.far.requests = sent (cs.chunkCount limit)) ∨
      ∃ i < cs.chunkCount limit, (∀ j < i, Answered watch cancelled replies j) ∧
        ((watch = .token ∧ CancelledBefore cancelled replies i ∧
            result.1 = .failed (.cancellation call) i ∧ result.2.far.requests = sent i) ∨
          (¬ (watch = .token ∧ CancelledBefore cancelled replies i) ∧
            GivenUp watch cancelled replies i ∧ result.1 = .failed (.cancellation call) i ∧
            result.2.far.requests = sent (i + 1)) ∨
          (¬ (watch = .token ∧ CancelledBefore cancelled replies i) ∧
            ¬ GivenUp watch cancelled replies i ∧
            ∃ failure, (replyTo replies i).reply.result call = .error failure ∧
              result.1 = .failed failure i ∧ result.2.far.requests = sent (i + 1))) := by
  intro sent result
  let t : Transaction := ⟨storeId, policy, call, watch⟩
  -- After `i` chunks: where the script is, what it has recorded, and that every reply counted.
  let P : ℕ → Script → Bool → Prop := fun i far flag =>
    Reached cancelled replies i far flag ∧ far.requests = sent i ∧
      ∀ j < i, Answered watch cancelled replies j
  have recording {i : ℕ} {far far' : Script} (recorded : far.requests = sent i)
      (added : far'.recorded = t.request (cs.chunkAt limit i) :: far.recorded) :
      far'.requests = sent (i + 1) := by
    rw [Script.requests, added, List.reverse_cons]
    exact (congrArg (· ++ _) recorded).trans firstRequests_succ.symm
  have preserved : t.Preserved Script.link (cs.split limit) P := by
    rintro i chunk w w' found ⟨reached, recorded, answered⟩ succeeded
    obtain ⟨-, rfl⟩ := (cs.getElem?_split_eq_some limit).mp found
    obtain ⟨running, reply, w₁, called, success, far, flag⟩ := sendChunk_eq_none succeeded
    obtain ⟨flight, w₂, called', reached', added, ended⟩ :=
      link_cases watch (t.request (cs.chunkAt limit i)) reached
    obtain ⟨rfl, rfl⟩ := Prod.mk.inj (called.symm.trans called')
    rcases ended with ⟨impossible, -⟩ | ⟨answeredBy, kept⟩
    · exact absurd impossible (by simp)
    · obtain rfl := Flight.answered.inj answeredBy
      refine ⟨far ▸ flag ▸ reached', recording recorded (far ▸ added), fun j earlier => ?_⟩
      rcases Nat.lt_succ_iff_lt_or_eq.mp earlier with earlier | rfl
      · exact answered j earlier
      · exact ⟨fun seen => by simp [(isStopped_iff watch reached).mpr seen, t] at running,
          kept, success⟩
  have start : P 0 ⟨replies, []⟩ cancelled :=
    ⟨⟨rfl, by simp [CancelledBefore]⟩, rfl, by simp⟩
  -- A chunk that fails has taken its reply, unless the token stopped it before it was sent.
  rcases execute_cases ⟨⟨replies, []⟩, cancelled, log⟩ stored preserved start with
    ⟨succeeded, -, recorded, answered⟩ |
      ⟨i, w₁, w₂, failure, inside, ⟨reached, recorded, answered⟩, failed, ended, far, -⟩
  · exact .inl ⟨answered, succeeded, recorded⟩
  · refine .inr ⟨i, inside, answered, ?_⟩
    obtain ⟨flight, w₃, called, reached', added, cases⟩ :=
      link_cases watch (t.request (cs.chunkAt limit i)) reached
    have seen := isStopped_iff watch reached
    have sentOne : w₃ = w₂ → result.2.far.requests = sent (i + 1) := by
      rintro rfl
      exact far ▸ recording recorded added
    rcases sendChunk_eq_some failed with
      ⟨stopped, rfl, rfl⟩ | ⟨running, abandoned, rfl⟩ | ⟨running, reply, answeredBy, rejected⟩
    · exact .inl ⟨(seen.mp stopped).1, (seen.mp stopped).2, ended, by rw [far, recorded]⟩
    · obtain ⟨rfl, rfl⟩ := Prod.mk.inj (called.symm.trans abandoned)
      rcases cases with ⟨-, givenUp⟩ | ⟨impossible, -⟩
      · exact .inr (.inl ⟨by simpa [running] using seen, givenUp, ended, sentOne rfl⟩)
      · exact absurd impossible (by simp)
    · obtain ⟨rfl, rfl⟩ := Prod.mk.inj (called.symm.trans answeredBy)
      rcases cases with ⟨impossible, -⟩ | ⟨replied, kept⟩
      · exact absurd impossible (by simp)
      · obtain rfl := Flight.answered.inj replied
        refine .inr (.inr ⟨by simpa [running] using seen, kept, failure, rejected, ended, ?_⟩)
        exact sentOne rfl

/-! ## A token that is not cancelled -/

section

variable {replies : List ScriptedReply}
  (quiet : ∀ e ∈ replies, e.cancels = false ∧ e.hangs = false)
include quiet

theorem not_cancelledBefore (i : ℕ) : ¬ CancelledBefore false replies i := by
  rintro (initial | ⟨j, -, cancels⟩)
  · simp at initial
  · have := forall_replyTo quiet ⟨rfl, rfl⟩ j
    simp [this.1] at cancels

theorem not_givenUp (i : ℕ) : ¬ GivenUp watch false replies i := by
  rintro (hangs | ⟨-, -, cancelled⟩)
  · have := forall_replyTo quiet ⟨rfl, rfl⟩ i
    simp [this.2] at hangs
  · exact not_cancelledBefore quiet (i + 1) cancelled

theorem answered_iff {i : ℕ} :
    Answered watch false replies i ↔ (replyTo replies i).reply.isSuccess = true :=
  ⟨Answered.success, fun success =>
    ⟨fun seen => not_cancelledBefore quiet i seen.2, not_givenUp quiet i, success⟩⟩

variable (limit cs policy watch) in
/-- While nobody cancels, a transaction ends at the first reply that is no success, if anywhere. -/
theorem execute_quiet_cases (stored : storeId? call = some storeId) (log : List Trace) :
    let sent := firstRequests limit cs ⟨storeId, policy, call, watch⟩
    let result := execute Script.link limit cs policy call watch ⟨⟨replies, []⟩, false, log⟩
    ((∀ j < cs.chunkCount limit, (replyTo replies j).reply.isSuccess = true) ∧
        result.1 = .success (totals limit cs) ∧
          result.2.far.requests = sent (cs.chunkCount limit)) ∨
      ∃ k < cs.chunkCount limit, (∀ j < k, (replyTo replies j).reply.isSuccess = true) ∧
        ∃ failure, (replyTo replies k).reply.result call = .error failure ∧
          result.1 = .failed failure k ∧ result.2.far.requests = sent (k + 1) := by
  intro sent result
  have cases := execute_script_cases limit cs policy watch stored replies false log
  simp only [answered_iff quiet] at cases
  rcases cases with success | ⟨k, inside, before, cancelled | givenUp | failed⟩
  · exact .inl success
  · exact absurd cancelled.2.1 (not_cancelledBefore quiet k)
  · exact absurd givenUp.2.1 (not_givenUp quiet k)
  · exact .inr ⟨k, inside, before, failed.2.2⟩

end

variable (limit cs policy call watch) in
/-- Over any replies, the chunks are sent in order up to the first one that is not answered with a
success, and the transaction ends there with the failure that the reply stands for. Without a store
or without tuples nothing is sent. -/
theorem execute_script (replies : List ScriptedReply) (log : List Trace)
    (quiet : ∀ e ∈ replies, e.cancels = false ∧ e.hangs = false) :
    let result := execute Script.link limit cs policy call watch ⟨⟨replies, []⟩, false, log⟩
    let n := cs.size ⌈/⌉ limit.tuples
    (∀ storeId, call.storeId = some storeId → Text.isBlank storeId = false →
      let request (i : ℕ) : Request :=
        { method := .post
          path := writePath storeId
          body := some
            (WriteBody.ofChunk (cs.chunkAt limit i) policy call.authorizationModelId).encode
          call := call }
      ((∀ j < n, (replyTo replies j).reply.isSuccess = true) →
        result.1 = .success ⟨n, cs.writes.length, cs.deletes.length⟩ ∧
          result.2.far.requests = (List.range n).map request) ∧
      ∀ k < n, (∀ j < k, (replyTo replies j).reply.isSuccess = true) →
        (replyTo replies k).reply.isSuccess = false →
        result.2.far.requests = (List.range (k + 1)).map request ∧
        match (replyTo replies k).reply with
        | .response r =>
          result.1 = .failed (.ofResponse (some r.status) r.body (some r.headers) call) k
        | .failure e => result.1 = .failed (.ofTransport e.message call) k) ∧
    ((∀ storeId, call.storeId = some storeId → Text.isBlank storeId = true) → cs.size ≠ 0 →
      result.1 = .failed (.ofInput "a store id is required to write tuples" call) 0 ∧
        result.2.far.requests = []) ∧
    (cs.size = 0 → result.1 = .success {} ∧ result.2.far.requests = []) := by
  intro result n
  have count : cs.chunkCount limit = n := cs.chunkCount_eq_ceilDiv limit
  refine ⟨?_, ?_, ?_⟩
  · intro storeId given notBlank request
    have cases := execute_quiet_cases limit cs policy watch quiet
      (storeId?_eq_some_iff.mpr ⟨given, notBlank⟩) log
    rw [count] at cases
    constructor
    · intro successes
      rcases cases with ⟨-, ended, sent⟩ | ⟨k, inside, -, failure, rejected, -⟩
      · exact ⟨by rw [ended, totals, count], sent⟩
      · have := Reply.isSuccess_eq_false rejected
        simp [successes k inside] at this
    · intro k inside before failed
      rcases cases with ⟨successes, -⟩ | ⟨i, -, earlier, failure, rejected, ended, sent⟩
      · simp [successes k inside] at failed
      · let Fails (j : ℕ) : Prop := (replyTo replies j).reply.isSuccess = false
        have unsuccessful : Fails i := Reply.isSuccess_eq_false rejected
        obtain rfl : i = k := first_unique unsuccessful (by simpa [Fails] using earlier) failed
          (by simpa [Fails] using before)
        refine ⟨sent, ?_⟩
        cases replied : (replyTo replies i).reply with
        | response r =>
          rw [replied] at rejected failed
          rw [Reply.result, if_neg (by simpa [Reply.isSuccess] using failed)] at rejected
          exact ended.trans (by rw [Except.error.inj rejected])
        | failure e =>
          rw [replied] at rejected
          exact ended.trans (by rw [Except.error.inj rejected])
  · intro missing nonempty
    obtain ⟨ended, far, -⟩ := execute_of_storeId?_eq_none Script.link limit policy watch
      ⟨⟨replies, []⟩, false, log⟩ nonempty (storeId?_eq_none_iff.mpr missing)
    exact ⟨ended, by rw [far]; rfl⟩
  · intro empty
    obtain ⟨ended, far, -⟩ := execute_of_size_eq_zero Script.link limit policy call watch
      ⟨⟨replies, []⟩, false, log⟩ empty
    exact ⟨ended, by rw [far]; rfl⟩

/-- The second chunk of two is answered with a failure. -/
theorem execute_script_handover :
    let result := execute Script.link ⟨1, by decide⟩ ChangeSet.handover .strict
      { storeId := some "s" } .token
      ⟨⟨[exhausted, { reply := .response { status := 404 } }, exhausted], []⟩, false, []⟩
    result.1 = .failed (.ofResponse (some 404) .null (some .empty) { storeId := some "s" }) 1 ∧
      result.2.far.requests.length = 2 := by
  intro result
  have run := (execute_script ⟨1, by decide⟩ ChangeSet.handover .strict { storeId := some "s" }
    .token [exhausted, { reply := .response { status := 404 } }, exhausted] []
    (by simp [exhausted])).1 "s" rfl (by decide)
  have second := run.2 1 (by decide) (by decide) rfl
  exact ⟨second.2, by rw [second.1]; rfl⟩

end Transaction

end TupleClient
