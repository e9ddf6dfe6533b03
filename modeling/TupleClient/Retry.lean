import TupleClient.Link
import TupleClient.Number.Power

/-!
# Retrying

A failure that may pass by itself is tried again after a pause that doubles from one retry to the
next. A reply that says nothing about whether the request was applied is not tried again if the
request rejects conflicts, for its repetition could meet the conflict that it made itself; only a
throttled request is known not to have been applied.

Pauses are whole milliseconds. Products and sums stay below the longest representable span of time,
and the random part of a pause is at most its basis. A caller who watches the token may give up in a
pause. Whether there is a moment to do so in a pause of no length is up to the timer.

## Main definitions

* `RetryPolicy` — how often, and how long the pauses are
* `RetryPolicy.Chance` — what chance and the timer decide about a pause
* `RetryPolicy.delay` — the pause before a retry, given its random part
* `RetryPolicy.givesUp` — whether a caller gives up in a pause
* `RetryPolicy.decision` — what becomes of a reply
* `RetryPolicy.link` — a link with retries around another link

## Main results

* `RetryPolicy.attempts_of_answered` — all that can come of an answered attempt
-/

namespace TupleClient

/-- How failed requests are retried. Times are in milliseconds. -/
structure RetryPolicy where
  /-- The number of retries after the first attempt. -/
  maxRetries : Nat := 3
  /-- The basis of the pauses. -/
  minWait : Nat := 100
  /-- The longest pause. -/
  maxWait : Nat := 5000
deriving DecidableEq, Inhabited

/-- The longest span of time: `2 ^ 64 - 1` seconds and all the milliseconds of one more. -/
def longestSpan : Nat := (twoTo 64 - 1) * 1000 + 999

namespace RetryPolicy

/-- The policy that never retries. -/
def disabled : RetryPolicy := { maxRetries := 0 }

/-- What chance and the timer decide about a pause. -/
structure Chance where
  /-- The random part. -/
  jitter : Nat
  /-- If the pause is empty, it is over when the caller first looks. A timer that rounds up to whole
  milliseconds may take a moment even then. -/
  passesEmpty : Bool := true

/-- A number is the random part of a pause that is over at once if it is empty. -/
instance Chance.ofNat {n : Nat} : OfNat Chance n := ⟨{ jitter := n }⟩

/-- The pause before retry number `attempt`, counted from zero, with a random part. -/
def delay (p : RetryPolicy) (attempt jitter : Nat) : Nat :=
  let base := min (p.minWait * twoTo (min attempt 16)) longestSpan
  min (min (base + jitter) longestSpan) p.maxWait

/-- The pause before a retry is over when the caller first looks. -/
def passes (p : RetryPolicy) (attempt : Nat) (chance : Chance) : Bool :=
  p.delay attempt chance.jitter == 0 && chance.passesEmpty

/-- The caller gives up in the pause before a retry. -/
def givesUp {σ : Type} (p : RetryPolicy) (attempt : Nat) (chance : Chance) (watch : Watch)
    (w : World σ) : Bool :=
  w.isStopped watch && !p.passes attempt chance

/-- What becomes of a reply. -/
inductive Decision where
  /-- The reply is handed to the caller. -/
  | accept
  /-- The reply is handed to the caller although its failure may pass, because the request might
  have been applied. -/
  | giveUp (kind : FailureKind)
  /-- The request is sent again. -/
  | retry (kind : FailureKind)
deriving DecidableEq

/-- What becomes of a reply as long as retries remain. -/
def decision (replaySafe : Bool) (reply : Reply) : Decision :=
  match reply.failureKind? with
  | none => .accept
  | some kind =>
    if !kind.isRetryable then .accept
    -- Only a throttled request is known not to have been applied.
    else if !replaySafe && kind != .rateLimit then .giveUp kind
    else .retry kind

/-- The values that every event about a request has. -/
def eventValues (r : Request) (kind : FailureKind) : List (String × Json) :=
  [("operation", .str r.call.operationName), ("path", .str r.path), ("kind", .str kind.name)]

/-- The world in which a retry has been noted. -/
def announce {σ : Type} (p : RetryPolicy) (attempt : Nat) (chance : Chance) (r : Request)
    (kind : FailureKind) (w : World σ) : World σ :=
  w.say .warn .retry "retrying request after transient failure"
    (eventValues r kind ++ [("attempt", Json.nat (attempt + 1)),
      ("delay_ms", Json.nat (p.delay attempt chance.jitter))])

@[simp] theorem isStopped_announce {σ : Type} (p : RetryPolicy) (attempt : Nat) (chance : Chance)
    (r : Request) (kind : FailureKind) (w : World σ) (watch : Watch) :
    (p.announce attempt chance r kind w).isStopped watch = w.isStopped watch := by
  cases watch <;> rfl

/-- Sends a request until its reply is accepted or no retry remains. The pause before retry number
`n` is as `chance n` decides. A caller who gives up during a pause abandons the call. -/
def attempts {σ : Type} (p : RetryPolicy) (chance : Nat → Chance) (inner : Link σ) (watch : Watch)
    (r : Request) (attempt : Nat) : Nat → World σ → Flight × World σ
  | 0, w => inner watch r w
  | remaining + 1, w =>
    match inner watch r w with
    | (.abandoned, w) => (.abandoned, w)
    | (.answered reply, w) =>
      match decision r.isReplaySafe reply with
      | .accept => (.answered reply, w)
      | .giveUp kind =>
        (.answered reply, w.say .debug .retry
          "not retrying conflict-checked write after ambiguous failure" (eventValues r kind))
      | .retry kind =>
        let w := p.announce attempt (chance attempt) r kind w
        -- Between two attempts the caller can give up only in the pause.
        if p.givesUp attempt (chance attempt) watch w then (.abandoned, w)
        else attempts p chance inner watch r (attempt + 1) remaining w

section

variable {σ : Type} (p : RetryPolicy) (chance : Nat → Chance) {inner : Link σ} {watch : Watch}
  {r : Request} {w w' : World σ}

/-- A call that the caller abandons is not tried again. -/
theorem attempts_of_abandoned (attempt remaining : Nat)
    (abandoned : inner watch r w = (.abandoned, w')) :
    p.attempts chance inner watch r attempt remaining w = (.abandoned, w') := by
  cases remaining <;> simp only [attempts, abandoned]

/-- All that can come of an attempt that is answered while retries remain. Its reply is handed on,
the caller gives up in the pause, or the next attempt is made. -/
theorem attempts_of_answered (attempt remaining : Nat) {reply : Reply}
    (answered : inner watch r w = (.answered reply, w')) :
    let result := p.attempts chance inner watch r attempt (remaining + 1) w
    ((∀ kind, decision r.isReplaySafe reply ≠ .retry kind) ∧ result.1 = .answered reply ∧
        result.2.far = w'.far ∧ result.2.cancelled = w'.cancelled) ∨
      ∃ kind, decision r.isReplaySafe reply = .retry kind ∧
        ∃ next : World σ, next.far = w'.far ∧ next.cancelled = w'.cancelled ∧
          ((w'.isStopped watch = true ∧ p.passes attempt (chance attempt) = false ∧
              result = (.abandoned, next)) ∨
            ((w'.isStopped watch = true → p.passes attempt (chance attempt) = true) ∧
              result = p.attempts chance inner watch r (attempt + 1) remaining next)) := by
  intro result
  cases decided : decision r.isReplaySafe reply with
  | accept =>
    have handedOn : result = (.answered reply, w') := by
      simp only [result, attempts, answered, decided]
    exact .inl ⟨by simp, by simp [handedOn]⟩
  | giveUp kind =>
    have handedOn : result = (.answered reply, w'.say .debug .retry
        "not retrying conflict-checked write after ambiguous failure" (eventValues r kind)) := by
      simp only [result, attempts, answered, decided]
    exact .inl ⟨by simp, by rw [handedOn], by rw [handedOn]; rfl, by rw [handedOn]; rfl⟩
  | retry kind =>
    let next := p.announce attempt (chance attempt) r kind w'
    refine .inr ⟨kind, rfl, next, rfl, rfl, ?_⟩
    cases givenUp : p.givesUp attempt (chance attempt) watch next with
    | true =>
      have seen : w'.isStopped watch = true ∧ p.passes attempt (chance attempt) = false := by
        simpa [givesUp, next] using givenUp
      refine .inl ⟨seen.1, seen.2, ?_⟩
      simp only [result, attempts, answered, decided]
      exact if_pos givenUp
    | false =>
      refine .inr ⟨by simpa [givesUp, next] using givenUp, ?_⟩
      simp only [result, attempts, answered, decided]
      exact if_neg (by simpa using givenUp)

end

/-- The link that retries what fails on another link. -/
def link {σ : Type} (p : RetryPolicy) (chance : Nat → Chance) (inner : Link σ) : Link σ :=
  fun watch r w => attempts p chance inner watch r 0 p.maxRetries w

end RetryPolicy

end TupleClient
