import TupleClient.Exchange
import TupleClient.Failure.Classified

/-!
# What a reply means to the caller

## Main definitions

* `Reply.result` — the successful response, or the failure that the reply stands for

## Main results

* `Reply.result_kind` — the failure is of the kind by which retries are decided
-/

namespace TupleClient.Reply

/-- The successful response, or the failure that the reply stands for. -/
def result (call : CallMetadata) : Reply → Except Failure Response
  | response r =>
    if r.isSuccess then .ok r
    else .error (.ofResponse (some r.status) r.body (some r.headers) call)
  | failure e => .error (.ofTransport e.message call)

/-- The failure that a reply stands for is of the kind by which retries are decided. -/
theorem result_kind {call : CallMetadata} {reply : Reply} {f : Failure}
    (h : reply.result call = .error f) : reply.failureKind? = some f.kind := by
  cases reply with
  | response r =>
    by_cases hr : r.isSuccess
    · simp [result, hr] at h
    · rw [result, if_neg hr, Except.error.injEq] at h
      rw [failureKind?, if_neg hr, ← h, Failure.ofResponse]
  | failure e =>
    simp only [result, Except.error.injEq] at h
    simp [failureKind?, ← h, Failure.ofTransport, FailureKind.ofStatus]

end TupleClient.Reply
