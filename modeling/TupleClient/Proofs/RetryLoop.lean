import Mathlib.Order.Bounds.Basic
import TupleClient.Proofs.LossyNetwork

/-!
# Attempts at a request

How often a request is sent is decided by the replies alone. The attempts end at the first reply
that is a success or a failure that does not pass by itself, that uses up the last retry, or that
leaves open whether a request with a strict directive was applied. That reply is handed on as it
is. A request with a strict directive is therefore repeated only after it was throttled.

## Main definitions

* `WriteBody.Rejects` — a body has a strict directive
* `Attempt`, `Attempt.link` — what one attempt comes to, and the link on which this is laid down
* `RetryPolicy.EndsAt` — a reply after which the request is not sent again
* `RetryPolicy.countedAttempts` — the attempts at a request, counted in 32 bits

## Main results

* `RetryPolicy.endsAt_iff` — while retries remain, the decision on a reply ends the attempts
* `RetryPolicy.attempts_farAfter` — from any attempt on, the attempts end at the first such reply
* `RetryPolicy.countedAttempts_eq` — the count of the attempts stays within its 32 bits
* `RetryPolicy.link_attempts` — how often a request is sent, and what is handed on
-/

namespace TupleClient

/-! ## Replies -/

namespace Reply

/-- The kind by which retries are decided is that of the failure which the caller is told. -/
theorem failureKind?_eq_some_iff {reply : Reply} {kind : FailureKind} (call : CallMetadata) :
    reply.failureKind? = some kind ↔
      ∃ failure, reply.result call = .error failure ∧ failure.kind = kind := by
  constructor
  · intro named
    cases told : reply.result call with
    | ok response =>
      have success := (result_eq_ok_iff call).mp ⟨response, told⟩
      simp [failureKind?_eq_none_iff.mpr success] at named
    | error failure =>
      exact ⟨failure, rfl, Option.some.inj ((result_kind told).symm.trans named)⟩
  · rintro ⟨failure, told, rfl⟩
    exact result_kind told

/-- Only the status 429 says that the caller is throttled. -/
theorem failureKind?_eq_rateLimit_iff {reply : Reply} :
    reply.failureKind? = some .rateLimit ↔
      ∃ response, reply = .response response ∧ response.status = 429 := by
  cases reply with
  | failure e => simp [failureKind?, FailureKind.ofStatus]
  | response r =>
    simp only [failureKind?, response.injEq, exists_eq_left']
    constructor
    · intro named
      split at named
      · simp at named
      · simp only [Option.some.injEq, FailureKind.ofStatus] at named
        split_ifs at named with h₁ h₂ h₃ h₄ h₅
        exact h₄
    · intro status
      simp [Response.isSuccess, FailureKind.ofStatus, status]

end Reply

/-! ## Strict bodies -/

namespace WriteBody

/-- Some section rejects its kind of conflict. -/
def Rejects (b : WriteBody) : Prop :=
  (∃ s, b.writes = some s ∧ s.onDuplicate = .error) ∨
    ∃ s, b.deletes = some s ∧ s.onMissing = .error

/-- A body with a section that rejects conflicts must not be replayed. -/
theorem Rejects.isReplaySafe_eq_false {b : WriteBody} (rejects : b.Rejects) :
    b.isReplaySafe = false := by
  rw [Bool.eq_false_iff, Ne, isReplaySafe_iff]
  rintro ⟨writesIgnore, deletesIgnore⟩
  rcases rejects with ⟨s, present, strict⟩ | ⟨s, present, strict⟩
  · simp [writesIgnore s present] at strict
  · simp [deletesIgnore s present] at strict

end WriteBody

/-! ## Attempts that are laid down in advance -/

/-- What one attempt at a request comes to: the reply, and what it does to the far side. -/
structure Attempt (σ : Type) where
  reply : Reply
  effect : σ → σ

namespace Attempt

variable {σ : Type}

/-- The replies to the attempts. -/
def replies (attempts : ℕ → Attempt σ) (i : ℕ) : Reply := (attempts i).reply

/-- The far side of attempts: its state, and the requests that it has received. -/
structure FarSide (σ : Type) where
  state : σ
  received : List Request := []

/-- The link on which the first request meets the first attempt, the second request the second
attempt, and so on. -/
def link (attempts : ℕ → Attempt σ) : Link (FarSide σ) := fun _ r w =>
  let i := w.far.received.length
  (.answered (replies attempts i),
    { w with far := ⟨(attempts i).effect w.far.state, w.far.received ++ [r]⟩ })

/-- The state after the first attempts. -/
def stateAfter (attempts : ℕ → Attempt σ) (state : σ) : ℕ → σ
  | 0 => state
  | count + 1 => (attempts count).effect (stateAfter attempts state count)

/-- The far side after the first attempts, all at the same request. -/
def farAfter (attempts : ℕ → Attempt σ) (state : σ) (r : Request) (count : ℕ) : FarSide σ :=
  ⟨stateAfter attempts state count, List.replicate count r⟩

variable {attempts : ℕ → Attempt σ} {state : σ} {r : Request}

theorem link_farAfter {count : ℕ} {w : World (FarSide σ)}
    (made : w.far = farAfter attempts state r count) (watch : Watch) :
    link attempts watch r w = (.answered (replies attempts count),
      { w with far := farAfter attempts state r (count + 1) }) := by
  simp [link, made, farAfter, stateAfter, List.replicate_succ']

/-- Attempts without an effect leave the state as it was. -/
theorem stateAfter_eq_self {count : ℕ} (idle : ∀ i < count, (attempts i).effect = id) :
    stateAfter attempts state count = state := by
  induction count with
  | zero => rfl
  | succ count ih =>
    rw [stateAfter, idle count (Nat.lt_succ_self count), id, ih]
    exact fun i earlier => idle i (Nat.lt_succ_of_lt earlier)

end Attempt

namespace RetryPolicy

/-! ## Where attempts end -/

/-- The reply with a number is a success or a failure that does not pass by itself, or there is no
further retry, or the request must not be replayed and was not throttled. -/
def EndsAt (p : RetryPolicy) (r : Request) (replies : ℕ → Reply) (n : ℕ) : Prop :=
  (replies n).isSuccess = true ∨
    (∃ kind, (replies n).failureKind? = some kind ∧ kind.isRetryable = false) ∨
    n = p.maxRetries ∨
    (r.isReplaySafe = false ∧ (replies n).failureKind? ≠ some .rateLimit)

/-- A request is sent again exactly if its failure passes by itself and repeating it does no
harm. -/
theorem decision_eq_retry_iff {safe : Bool} {reply : Reply} {kind : FailureKind} :
    decision safe reply = .retry kind ↔
      reply.failureKind? = some kind ∧ kind.isRetryable = true ∧
        (safe = true ∨ kind = .rateLimit) := by
  constructor
  · intro again
    obtain ⟨named, harmless⟩ := decision_eq_retry again
    refine ⟨named, ?_, harmless⟩
    simp only [decision, named] at again
    split at again
    · simp at again
    · next passes => simpa using passes
  · rintro ⟨named, passes, harmless⟩
    simp only [decision, named]
    rw [if_neg (by simp [passes]), if_neg]
    rcases harmless with rfl | rfl
    · simp
    · simp

variable {p : RetryPolicy} {r : Request} {replies : ℕ → Reply} {n : ℕ}

/-- While retries remain, the attempts end at a reply on which it is not decided to retry. -/
theorem endsAt_iff (remains : n < p.maxRetries) :
    p.EndsAt r replies n ↔ ∀ kind, decision r.isReplaySafe (replies n) ≠ .retry kind := by
  simp only [Ne, decision_eq_retry_iff, EndsAt, remains.ne, false_or]
  cases named : (replies n).failureKind? with
  | none => simp [Reply.failureKind?_eq_none_iff.mp named]
  | some kind =>
    have failed : (replies n).isSuccess = false := by
      rw [Bool.eq_false_iff, Ne, ← Reply.failureKind?_eq_none_iff, named]
      simp
    cases passes : kind.isRetryable <;> cases r.isReplaySafe <;> simp [failed, passes]

/-- The last retry is followed by no other. -/
theorem endsAt_maxRetries (p : RetryPolicy) : p.EndsAt r replies p.maxRetries :=
  .inr (.inr (.inl rfl))

/-- A reply that ends the attempts is the first one if they did not end earlier. -/
theorem isLeast_of_endsAt (goesOn : ∀ i < n, ¬ p.EndsAt r replies i) (ends : p.EndsAt r replies n) :
    IsLeast {i | p.EndsAt r replies i} n :=
  ⟨ends, fun i other => Nat.not_lt.mp fun earlier => goesOn i earlier other⟩

/-! ## All attempts -/

section

variable {σ : Type} (p) (chance : ℕ → Chance) (attempts : ℕ → Attempt σ) {state : σ}
  {watch : Watch}

/-- From any attempt on, the attempts go on to the first reply at which they end. -/
theorem attempts_farAfter (attempt remaining : ℕ) (total : attempt + remaining = p.maxRetries)
    {w : World (Attempt.FarSide σ)} (made : w.far = Attempt.farAfter attempts state r attempt)
    (running : w.isStopped watch = false)
    (goesOn : ∀ i < attempt, ¬ p.EndsAt r (Attempt.replies attempts) i) :
    let result := p.attempts chance (Attempt.link attempts) watch r attempt remaining w
    ∃ n, IsLeast {i | p.EndsAt r (Attempt.replies attempts) i} n ∧
      result.1 = .answered (Attempt.replies attempts n) ∧
      result.2.far = Attempt.farAfter attempts state r (n + 1) := by
  -- The number of the attempt and the retries that remain add up to the same at every attempt.
  induction remaining generalizing attempt w with
  | zero =>
    obtain rfl : attempt = p.maxRetries := total
    rw [RetryPolicy.attempts, Attempt.link_farAfter made watch]
    exact ⟨p.maxRetries, isLeast_of_endsAt goesOn (endsAt_maxRetries p), rfl, rfl⟩
  | succ remaining ih =>
    have remains : attempt < p.maxRetries := by omega
    have answered := Attempt.link_farAfter made watch
    -- Either this is the first reply at which the attempts end, or the next attempt is made.
    rcases p.attempts_of_answered chance attempt remaining answered with
      ⟨ends, handedOn, far, -⟩ | ⟨kind, again, next, far, flag, ⟨stopped, -⟩ | ⟨-, rest⟩⟩
    · have endsHere := (endsAt_iff remains).mpr ends
      exact ⟨attempt, isLeast_of_endsAt goesOn endsHere, handedOn, far⟩
    · have stoppedBefore : w.isStopped watch = true :=
        (World.isStopped_congr rfl watch).trans stopped
      simp [running] at stoppedBefore
    · have goesOnNext : ∀ i < attempt + 1, ¬ p.EndsAt r (Attempt.replies attempts) i := by
        intro i earlier
        rcases Nat.lt_succ_iff_lt_or_eq.mp earlier with earlier | rfl
        · exact goesOn i earlier
        · exact fun ends => (endsAt_iff remains).mp ends kind again
      have stillRunning : next.isStopped watch = false :=
        (World.isStopped_congr flag watch).trans running
      simp only [rest]
      exact ih (attempt + 1) (by omega) far stillRunning goesOnNext

end

/-! ## Attempts counted in words -/

section

variable {σ : Type}

/-- The next number of an attempt fits the word as long as retries remain. -/
theorem toNat_succ {attempt maxRetries : UInt32} (remains : attempt < maxRetries) :
    (attempt + 1).toNat = attempt.toNat + 1 := by
  have below := UInt32.lt_iff_toNat_lt.mp remains
  have bound := maxRetries.toNat_lt
  rw [UInt32.toNat_add, UInt32.toNat_one]
  omega

/-- The attempts at a request, with their number kept in a word of 32 bits. -/
def countedAttempts (p : RetryPolicy) (maxRetries : UInt32) (chance : ℕ → Chance) (inner : Link σ)
    (watch : Watch) (r : Request) (attempt : UInt32) (w : World σ) : Flight × World σ :=
  match inner watch r w with
  | (.abandoned, w) => (.abandoned, w)
  | (.answered reply, w) =>
    match reply.failureKind? with
    | none => (.answered reply, w)
    | some kind =>
      if !kind.isRetryable then (.answered reply, w)
      else if remains : attempt < maxRetries then
        if !r.isReplaySafe && kind != .rateLimit then
          (.answered reply, w.say .debug .retry
            "not retrying conflict-checked write after ambiguous failure" (eventValues r kind))
        else
          let w := w.say .warn .retry "retrying request after transient failure"
            (eventValues r kind ++ [("attempt", Json.nat (attempt + 1).toNat),
              ("delay_ms", Json.nat (p.delay attempt.toNat (chance attempt.toNat).jitter))])
          if p.givesUp attempt.toNat (chance attempt.toNat) watch w then (.abandoned, w)
          else countedAttempts p maxRetries chance inner watch r (attempt + 1) w
      else (.answered reply, w)
termination_by maxRetries.toNat - attempt.toNat
decreasing_by
  have below := UInt32.lt_iff_toNat_lt.mp remains
  rw [toNat_succ remains]
  omega

/-- The count of the attempts does not run over: it is the number that counts without a bound. -/
theorem countedAttempts_eq (p : RetryPolicy) (maxRetries : UInt32) (chance : ℕ → Chance)
    (inner : Link σ) (watch : Watch) (r : Request) (attempt : UInt32) (remaining : ℕ)
    (total : attempt.toNat + remaining = maxRetries.toNat) (w : World σ) :
    p.countedAttempts maxRetries chance inner watch r attempt w =
      p.attempts chance inner watch r attempt.toNat remaining w := by
  -- Both loops make the same call and look at the same reply; they differ in how they count.
  induction remaining generalizing attempt w with
  | zero =>
    have exhausted : ¬ attempt < maxRetries := by
      rw [UInt32.lt_iff_toNat_lt]
      omega
    unfold countedAttempts RetryPolicy.attempts
    rcases inner watch r w with ⟨reply | _, w'⟩
    · cases named : reply.failureKind? <;> simp [named, exhausted]
    · rfl
  | succ remaining ih =>
    have remains : attempt < maxRetries := by
      rw [UInt32.lt_iff_toNat_lt]
      omega
    have next := toNat_succ remains
    unfold countedAttempts RetryPolicy.attempts
    rcases inner watch r w with ⟨reply | _, w'⟩
    · cases named : reply.failureKind? with
      | none => simp [decision, named]
      | some kind =>
        cases passes : kind.isRetryable
        · simp [decision, named, passes]
        · by_cases harmful : (!r.isReplaySafe && kind != .rateLimit) = true
          · simp [decision, named, passes, remains, harmful]
          · -- Only here is the number increased, and the limit is not reached yet.
            have rest := ih (attempt + 1) (by omega)
            rw [next] at rest
            simp [decision, named, passes, remains, harmful, next, rest]
            rfl
    · rfl

end

/-! ## The whole loop -/

section

variable {σ : Type}

/-- What the attempts before the last one tell: each is answered with a failure that passes by
itself, and a request that must not be replayed was throttled each time. -/
theorem retried_of_isLeast (least : IsLeast {i | p.EndsAt r replies i} n) {i : ℕ}
    (earlier : i < n) :
    ∃ kind, (replies i).failureKind? = some kind ∧ kind.isRetryable = true ∧
      (r.isReplaySafe = true ∨ kind = .rateLimit) := by
  have remains : i < p.maxRetries := lt_of_lt_of_le earlier (least.2 (endsAt_maxRetries p))
  have goesOn : ¬ p.EndsAt r replies i := fun ends => Nat.not_le.mpr earlier (least.2 ends)
  rw [endsAt_iff remains] at goesOn
  push Not at goesOn
  obtain ⟨kind, again⟩ := goesOn
  exact ⟨kind, decision_eq_retry_iff.mp again⟩

/-- A request is sent again until the first reply that ends the attempts, each time unchanged, and
that reply is handed on as it is. Counting the attempts in 32 bits makes no difference. The kind by
which it is decided is that of the failure of which the caller is told, so every reply before the
last is a failure that is said to pass by itself.

Before a request with a strict directive is sent again, it was throttled. If throttling keeps
requests from being applied, only the last attempt has an effect. -/
theorem link_attempts (p : RetryPolicy) (chance : ℕ → Chance) (attempts : ℕ → Attempt σ)
    (watch : Watch) (r : Request) (s : σ) (cancelled : Bool) (log : List Trace)
    (running : (⟨⟨s, []⟩, cancelled, log⟩ : World (Attempt.FarSide σ)).isStopped watch = false) :
    let w : World (Attempt.FarSide σ) := ⟨⟨s, []⟩, cancelled, log⟩
    let result := p.link chance (Attempt.link attempts) watch r w
    let replies := Attempt.replies attempts
    (∀ i call kind, (replies i).failureKind? = some kind ↔
      ∃ failure, (replies i).result call = .error failure ∧ failure.kind = kind) ∧
    (∀ limit : UInt32, limit.toNat = p.maxRetries →
      p.countedAttempts limit chance (Attempt.link attempts) watch r 0 w = result) ∧
    ∃ n, IsLeast {i | p.EndsAt r replies i} n ∧
      result.1 = .answered (replies n) ∧
      result.2.far.received = List.replicate (n + 1) r ∧
      (∀ i < n, ∀ call, ∃ failure, (replies i).result call = .error failure ∧
        failure.kind.isRetryable = true) ∧
      ∀ b, r.writeBody? = some b → b.Rejects →
        (∀ i < n, ∃ response, replies i = .response response ∧ response.status = 429) ∧
        ((∀ i response, replies i = .response response → response.status = 429 →
            (attempts i).effect = id) →
          result.2.far.state = (attempts n).effect s) := by
  intro w result replies
  obtain ⟨n, least, answered, far⟩ := p.attempts_farAfter chance attempts 0 p.maxRetries
    (Nat.zero_add _) (show w.far = Attempt.farAfter attempts s r 0 from rfl) running
    (fun i earlier => absurd earlier (Nat.not_lt_zero i))
  refine ⟨fun i call kind => Reply.failureKind?_eq_some_iff call, ?_, n, least, answered, ?_, ?_,
    ?_⟩
  · intro limit same
    have counted := p.countedAttempts_eq limit chance (Attempt.link attempts) watch r 0 p.maxRetries
      (by simp [same]) w
    exact counted
  · exact congrArg Attempt.FarSide.received far
  · intro i earlier call
    obtain ⟨kind, named, passes, -⟩ := retried_of_isLeast least earlier
    obtain ⟨failure, told, rfl⟩ := (Reply.failureKind?_eq_some_iff call).mp named
    exact ⟨failure, told, passes⟩
  · intro b body rejects
    have single : r.isReplaySafe = false := by
      rw [Request.isReplaySafe, body]
      exact rejects.isReplaySafe_eq_false
    have throttled : ∀ i < n, ∃ response, replies i = .response response ∧
        response.status = 429 := by
      intro i earlier
      obtain ⟨kind, named, -, safe | rfl⟩ := retried_of_isLeast least earlier
      · simp [single] at safe
      · exact Reply.failureKind?_eq_rateLimit_iff.mp named
    refine ⟨throttled, fun idle => ?_⟩
    have unchanged : Attempt.stateAfter attempts s n = s := by
      apply Attempt.stateAfter_eq_self
      intro i earlier
      obtain ⟨response, replied, status⟩ := throttled i earlier
      exact idle i response replied status
    calc result.2.far.state = Attempt.stateAfter attempts s (n + 1) :=
          congrArg Attempt.FarSide.state far
      _ = (attempts n).effect s := by rw [Attempt.stateAfter, unchanged]

/-- A strict write that is throttled at first is sent again. After a reply that leaves open whether
it was applied, it is not, although two retries remain. -/
theorem link_attempts_throttled :
    let t : Transaction := ⟨"s", .strict, {}, .nothing⟩
    let r := t.request ⟨0, [ChangeSet.reader "anne"], []⟩
    let attempts : ℕ → Attempt ℕ
      | 0 => ⟨.response { status := 429 }, id⟩
      | _ => ⟨.response { status := 500 }, (· + 1)⟩
    let result := link {} (fun _ => 0) (Attempt.link attempts) .nothing r ⟨⟨0, []⟩, false, []⟩
    result.1 = .answered (.response { status := 500 }) ∧ result.2.far.received = [r, r] ∧
      result.2.far.state = 1 := by
  intro t r attempts result
  obtain ⟨-, -, n, least, answered, received, -, strict⟩ :=
    link_attempts {} (fun _ => 0) attempts .nothing r 0 false [] rfl
  have body := t.writeBody?_request ⟨0, [ChangeSet.reader "anne"], []⟩
  have rejects : (WriteBody.ofChunk ⟨0, [ChangeSet.reader "anne"], []⟩ .strict none).Rejects :=
    .inl ⟨_, rfl, rfl⟩
  obtain ⟨throttled, once⟩ := strict _ body rejects
  have ambiguous : EndsAt {} r (Attempt.replies attempts) 1 := by
    refine .inr (.inr (.inr ⟨?_, by decide⟩))
    rw [Request.isReplaySafe, body]
    exact rejects.isReplaySafe_eq_false
  have goesOn : ¬ EndsAt {} r (Attempt.replies attempts) 0 := by
    rintro (success | ⟨kind, named, passesNot⟩ | exhausted | ⟨-, notThrottled⟩)
    · exact absurd success (by decide)
    · obtain rfl : kind = .rateLimit := Option.some.inj (named.symm.trans rfl)
      exact absurd passesNot (by decide)
    · exact absurd exhausted (by decide)
    · exact notThrottled rfl
  obtain rfl : n = 1 := by
    have atMost : n ≤ 1 := least.2 ambiguous
    have positive : n ≠ 0 := by
      rintro rfl
      exact goesOn least.1
    omega
  refine ⟨answered, received, once ?_⟩
  rintro (_ | i) response replied status
  · rfl
  · obtain rfl := Reply.response.inj replied
    exact absurd status (by decide)

end

end RetryPolicy

end TupleClient
