import TupleClient.Proofs.Footprint
import TupleClient.Proofs.LossyNetwork

/-!
# Retries on a shared service

Other clients use the service as well. Between two attempts at a request the service may have served
any number of their requests, as long as those leave the keys of the request alone. A reply of the
service is then still the one that the first attempt would have got if nothing had been lost, and
the keys have changed once or not at all: no retry meets a conflict that an earlier attempt made.

## Main definitions

* `Service.afterAll` — the service after requests in order
* `Service.busyLink` — the link to a service that serves others before each attempt
* `Service.Pending`, `Service.Concluded` — a request before and after an attempt at it
* `RetryPolicy.Ended` — a request after all attempts at it

## Main results

* `Service.concluded_busyLink`, `RetryPolicy.ended_attempts` — what one attempt, and what all
  attempts at a request, come to
* `RetryPolicy.link_busy` — no reply of the service is due to an earlier attempt
-/

namespace TupleClient

namespace Service

/-- The service after requests in order, whatever it replies. -/
def afterAll (s : Service) (requests : List Request) : Service := requests.foldl after s

/-- The link through the network to a service that serves requests of others before each attempt. -/
def busyLink (fates : ℕ → Fate) (others : ℕ → List Request) : Link Remote := fun watch r w =>
  let service := w.far.service.afterAll (others w.far.attempts)
  lossyLink fates watch r { w with far := { w.far with service := service } }

/-- The cells that a request touches. -/
def own (r : Request) : Set Cell := {cell | cell ∈ touched r}

variable {cells : Set Cell} {first now after : Service} {r : Request} {fate : Fate} {reply : Reply}

/-- Requests that touch nothing of some cells leave them as they are. -/
theorem agreeOn_afterAll (s : Service) {requests : List Request}
    (apart : ∀ r ∈ requests, ∀ cell ∈ touched r, cell ∉ cells) :
    AgreeOn cells (s.afterAll requests) s := by
  induction requests generalizing s with
  | nil => exact .refl cells s
  | cons r rest ih =>
    obtain ⟨here, later⟩ := List.forall_mem_cons.mp apart
    exact (ih (s.after r) later).trans (agreeOn_after s here)

/-! ## One attempt -/

/-- Before an attempt, nothing that the request touches has changed, or an earlier attempt had its
effect and the request may be replayed. -/
def Pending (first : Service) (r : Request) (now : Service) : Prop :=
  AgreeOn (own r) now first ∨ (AgreeOn (own r) now (first.after r) ∧ r.isReplaySafe = true)

/-- What a reply to an attempt tells, given what became of the attempt. -/
structure Concluded (first : Service) (r : Request) (fate : Fate) (reply : Reply)
    (after : Service) : Prop where
  /-- What the request touches has changed once or not at all. -/
  atMostOnce : AgreeOn (own r) after first ∨ AgreeOn (own r) after (first.after r)
  /-- The service replies what it would have replied at first. -/
  delivered : fate = .delivered → AgreeOn (own r) after (first.after r) ∧
    ∃ response, reply = .response response ∧ response.Alike (first.handle r).1
  /-- The network replies with failures that may pass by themselves. -/
  spoiled : fate ≠ .delivered → ∃ kind, reply.failureKind? = some kind ∧ kind.isRetryable = true
  /-- The network says that the caller is throttled only where it keeps the request back. -/
  throttled : fate ≠ .delivered → reply.failureKind? = some .rateLimit → Pending first r after

theorem Pending.trans {later : Service} (h : Pending first r now)
    (same : AgreeOn (own r) later now) : Pending first r later :=
  h.imp same.trans fun earlier => ⟨same.trans earlier.1, earlier.2⟩

theorem Pending.atMostOnce (h : Pending first r now) :
    AgreeOn (own r) now first ∨ AgreeOn (own r) now (first.after r) :=
  h.imp_right fun earlier => earlier.1

/-- A request that arrives has its effect now, unless it had it earlier. -/
theorem Pending.agreeOn_after (h : Pending first r now) :
    AgreeOn (own r) (now.after r) (first.after r) := by
  rcases h with same | ⟨same, safe⟩
  · exact same.after fun _ inside => inside
  · exact (same.after fun _ inside => inside).trans (agreeOn_replay first safe)

/-- A request that arrives is answered as it would have been at first. -/
theorem Pending.alike (h : Pending first r now) : (now.handle r).1.Alike (first.handle r).1 := by
  rcases h with same | ⟨same, safe⟩
  · exact same.alike fun _ inside => inside
  · exact (same.alike fun _ inside => inside).trans (alike_replay first safe)

/-- Whatever the network does and whatever others did, an attempt is answered and leaves the request
concluded. -/
theorem concluded_busyLink (fates : ℕ → Fate) {others : ℕ → List Request}
    (apart : ∀ i, ∀ other ∈ others i, ∀ cell ∈ touched other, cell ∉ touched r) (watch : Watch)
    {w : World Remote} (h : Pending first r w.far.service) :
    ∃ reply w', busyLink fates others watch r w = (.answered reply, w') ∧
      w'.cancelled = w.cancelled ∧ w'.far.attempts = w.far.attempts + 1 ∧
      Concluded first r (fates w.far.attempts) reply w'.far.service := by
  -- What others did since the last attempt makes no difference to the request.
  have pending : Pending first r (w.far.service.afterAll (others w.far.attempts)) :=
    h.trans (agreeOn_afterAll _ (apart w.far.attempts))
  generalize busy : w.far.service.afterAll (others w.far.attempts) = now at pending
  obtain ⟨arrived, answered, far, cancelled⟩ := link_answers watch r ⟨now, w.cancelled, w.log⟩
  dsimp only at answered far cancelled
  have once : AgreeOn (own r) arrived.far (first.after r) := far ▸ pending.agreeOn_after
  unfold busyLink lossyLink
  simp only [busy, answered]
  cases fates w.far.attempts with
  | delivered =>
    exact ⟨_, _, rfl, cancelled, rfl, .inr once, fun _ => ⟨once, _, rfl, pending.alike⟩, by simp,
      by simp⟩
  | requestLost reply kind =>
    refine ⟨reply, _, rfl, rfl, rfl, pending.atMostOnce, by simp, fun _ => ?_, fun _ _ => pending⟩
    rcases kind with transport | rateLimit | server
    · exact ⟨_, transport, rfl⟩
    · exact ⟨_, rateLimit, rfl⟩
    · exact ⟨_, server, rfl⟩
  | replyLost reply kind =>
    refine ⟨reply, _, rfl, cancelled, rfl, .inr once, by simp, fun _ => ?_, fun _ throttled => ?_⟩
    · rcases kind with transport | server
      · exact ⟨_, transport, rfl⟩
      · exact ⟨_, server, rfl⟩
    · -- Whoever lost a reply is not told that the caller is throttled.
      simp [throttled] at kind

/-- A reply of the service that is not a success comes without any effect. -/
theorem Concluded.untouched (h : Concluded first r .delivered reply after)
    (failed : reply.isSuccess = false) : AgreeOn (own r) after first := by
  obtain ⟨once, response, rfl, alike⟩ := h.delivered rfl
  have refused : (first.handle r).1.status ≠ 200 := by
    intro accepted
    rw [← alike.status_eq] at accepted
    simp [Reply.isSuccess, Response.isSuccess, accepted] at failed
  exact once.trans (.of_stores_eq (stores_after_of_status_ne refused) (limit_after first r))

/-- Only the service says that something is missing or in conflict, and then it has done nothing. -/
theorem Concluded.of_refused {response : Response}
    (h : Concluded first r fate (.response response) after)
    (refused : response.status = 404 ∨ response.status = 409) :
    fate = .delivered ∧ AgreeOn (own r) after first := by
  have failed : response.isSuccess = false := by
    rcases refused with missing | conflict
    · simp [Response.isSuccess, missing]
    · simp [Response.isSuccess, conflict]
  have lasts : (FailureKind.ofStatus (some response.status)).isRetryable = false := by
    rcases refused with missing | conflict
    · rw [missing]
      rfl
    · rw [conflict]
      rfl
  have arrived : fate = .delivered := by
    by_contra lost
    obtain ⟨kind, named, passes⟩ := h.spoiled lost
    obtain rfl : FailureKind.ofStatus (some response.status) = kind := by
      simpa [Reply.failureKind?, failed] using named
    simp [lasts] at passes
  subst arrived
  exact ⟨rfl, h.untouched failed⟩

end Service

/-! ## All attempts at a request -/

namespace RetryPolicy

open Service

variable {first : Service} {r : Request} {fates : ℕ → Fate} {others : ℕ → List Request}

/-- Before a request is sent again, it is pending. -/
theorem pending_of_retry {fate : Fate} {reply : Reply} {after : Service} {kind : FailureKind}
    (h : Concluded first r fate reply after)
    (again : decision r.isReplaySafe reply = .retry kind) : Pending first r after := by
  obtain ⟨named, replayable⟩ := decision_eq_retry again
  have failed : reply.isSuccess = false := by
    rw [Bool.eq_false_iff, Ne, ← Reply.failureKind?_eq_none_iff, named]
    simp
  by_cases arrived : fate = .delivered
  · -- The service refused the request, which it then would have done at first.
    subst arrived
    exact .inl (h.untouched failed)
  · rcases replayable with safe | rfl
    · exact h.atMostOnce.imp_right fun once => ⟨once, safe⟩
    · exact h.throttled arrived named

/-- How attempts at a request end: what it touches has changed once or not at all, only a caller who
stops is left without a reply, and a reply is one to the last attempt. -/
structure Ended (first : Service) (r : Request) (fates : ℕ → Fate) (watch : Watch)
    (w : World Remote) (flight : Flight) (after : Remote) : Prop where
  atMostOnce : AgreeOn (own r) after.service first ∨ AgreeOn (own r) after.service (first.after r)
  answered : w.isStopped watch = false → flight ≠ .abandoned
  concluded : ∀ reply, flight = .answered reply → ∃ last, after.attempts = last + 1 ∧
    w.far.attempts ≤ last ∧ Concluded first r (fates last) reply after.service

section

variable {watch : Watch} {w w' : World Remote} {after : Remote}

/-- The reply to an attempt is handed to the caller. -/
theorem Ended.of_concluded {reply : Reply}
    (h : Concluded first r (fates w.far.attempts) reply after.service)
    (counted : after.attempts = w.far.attempts + 1) :
    Ended first r fates watch w (.answered reply) after where
  atMostOnce := h.atMostOnce
  answered := by simp
  concluded reply' same := by
    obtain rfl := Flight.answered.inj same
    exact ⟨w.far.attempts, counted, le_rfl, h⟩

/-- Attempts that begin after the first one. -/
theorem Ended.later {flight : Flight} (h : Ended first r fates watch w' flight after)
    (token : w'.isStopped watch = w.isStopped watch)
    (counted : w'.far.attempts = w.far.attempts + 1) :
    Ended first r fates watch w flight after where
  atMostOnce := h.atMostOnce
  answered running := h.answered (token.trans running)
  concluded reply replied := by
    obtain ⟨last, total, later, concluded⟩ := h.concluded reply replied
    exact ⟨last, total, by omega, concluded⟩

end

/-- All attempts at a request together. -/
theorem ended_attempts (p : RetryPolicy) (chance : ℕ → Chance) (watch : Watch)
    (apart : ∀ i, ∀ other ∈ others i, ∀ cell ∈ touched other, cell ∉ touched r)
    (attempt remaining : ℕ) {w : World Remote} (h : Pending first r w.far.service) :
    let result := p.attempts chance (busyLink fates others) watch r attempt remaining w
    Ended first r fates watch w result.1 result.2.far := by
  -- What is pending before an attempt is concluded by it, and pending again before the next one.
  induction remaining generalizing attempt w with
  | zero =>
    obtain ⟨reply, w', called, -, counted, concluded⟩ := concluded_busyLink fates apart watch h
    simp only [attempts, called]
    exact .of_concluded concluded counted
  | succ remaining ih =>
    obtain ⟨reply, w', called, cancelled, counted, concluded⟩ :=
      concluded_busyLink fates apart watch h
    rcases p.attempts_of_answered chance attempt remaining called with
      ⟨-, handedOn, far, -⟩ | ⟨kind, again, next, far, flag, ⟨stopped, -, ended⟩ | ⟨-, goesOn⟩⟩
    · simp only [handedOn, far]
      exact .of_concluded concluded counted
    · -- The caller gives up in the pause, which it can only do once the token is cancelled.
      rw [World.isStopped_congr cancelled] at stopped
      simp only [ended, far]
      exact ⟨concluded.atMostOnce, fun running => by simp [stopped] at running, by simp⟩
    · have pending : Pending first r next.far.service := far ▸ pending_of_retry concluded again
      rw [goesOn]
      exact (ih (attempt + 1) pending).later
        (World.isStopped_congr (flag.trans cancelled) watch) (far ▸ counted)

/-- Whatever gets lost and whatever others do, a request that is retried has its effect on its own
keys once or not at all. If the caller is given a reply of the service, it says what the service
would have said at first, and a reply of the network is a failure that may pass by itself. So where
the caller is told of something missing or of a conflict, no earlier attempt has had an effect. -/
theorem link_busy (p : RetryPolicy) (chance : ℕ → Chance) (fates : ℕ → Fate)
    (others : ℕ → List Request) (watch : Watch) (r : Request) (w : World Remote)
    (apart : ∀ i, ∀ other ∈ others i, ∀ cell ∈ touched other, cell ∉ touched r) :
    let first := w.far.service
    let result := p.link chance (busyLink fates others) watch r w
    let after := result.2.far
    let Unchanged := ∀ cell ∈ touched r,
      after.service.conditionAt? cell = first.conditionAt? cell
    let AppliedOnce := ∀ cell ∈ touched r,
      after.service.conditionAt? cell = (first.after r).conditionAt? cell
    (w.isStopped watch = false → ∃ reply, result.1 = .answered reply) ∧
    (Unchanged ∨ AppliedOnce) ∧
    ∀ reply, result.1 = .answered reply →
      ∃ last, after.attempts = last + 1 ∧ w.far.attempts ≤ last ∧
        (fates last = .delivered →
          AppliedOnce ∧ ∃ response, reply = .response response ∧
            response.Alike (first.handle r).1) ∧
        (fates last ≠ .delivered →
          ∃ kind, reply.failureKind? = some kind ∧ kind.isRetryable = true) ∧
        ∀ response, reply = .response response → response.status = 404 ∨ response.status = 409 →
          fates last = .delivered ∧ Unchanged := by
  intro first result after Unchanged AppliedOnce
  have start : Pending first r w.far.service := .inl (.refl _ _)
  have ended : Ended first r fates watch w result.1 after :=
    p.ended_attempts chance watch apart 0 p.maxRetries start
  refine ⟨fun running => ?_, ended.atMostOnce.imp AgreeOn.condition_eq AgreeOn.condition_eq,
    fun reply replied => ?_⟩
  · cases flight : result.1 with
    | answered reply => exact ⟨reply, rfl⟩
    | abandoned => exact absurd flight (ended.answered running)
  · obtain ⟨last, total, later, concluded⟩ := ended.concluded reply replied
    refine ⟨last, total, later, fun arrived => ?_, concluded.spoiled,
      fun response said refused => ?_⟩
    · exact (concluded.delivered arrived).imp_left AgreeOn.condition_eq
    · subst said
      exact (concluded.of_refused refused).imp_right AgreeOn.condition_eq

/-- The reply to a write gets lost. Before the write is replayed, the service serves another. -/
theorem link_busy_handover :
    let lost : Reply := .failure ⟨.timeout, "no reply"⟩
    let fates (i : ℕ) : Fate := if i = 0 then .replyLost lost (.inl rfl) else .delivered
    let t : Transaction := ⟨"s", .idempotent, { storeId := some "s" }, .token⟩
    let r := t.request ⟨0, [ChangeSet.reader "anne"], []⟩
    let others (i : ℕ) := if i = 1 then [t.request ⟨0, [ChangeSet.reader "bob"], []⟩] else []
    let first := Service.createStore {} "s"
    let result := link {} (fun _ => 0) (busyLink fates others) .token r ⟨⟨first, 0⟩, false, []⟩
    let after := result.2.far
    after.attempts = 2 ∧ after.service.contains "s" (ChangeSet.reader "bob").key = true ∧
      ∃ response, result.1 = .answered (.response response) ∧ response.status = 200 ∧
        response.Alike (first.handle r).1 ∧ ∀ cell ∈ touched r,
          after.service.conditionAt? cell = (first.after r).conditionAt? cell := by
  intro lost fates t r others first result after
  have apart : ∀ i, ∀ other ∈ others i, ∀ cell ∈ touched other, cell ∉ touched r := by
    intro i other member
    obtain ⟨-, rfl⟩ : i = 1 ∧ other = t.request ⟨0, [ChangeSet.reader "bob"], []⟩ := by
      simpa [others] using member
    decide +kernel
  obtain ⟨answered, -, ending⟩ := link_busy {} (fun _ => 0) fates others .token r
    ⟨⟨first, 0⟩, false, []⟩ apart
  obtain ⟨reply, replied⟩ := answered rfl
  obtain ⟨last, total, -, delivered, -⟩ := ending reply replied
  have attempts : after.attempts = 2 := by decide +kernel
  obtain rfl : last = 1 := by
    have : last + 1 = 2 := total.symm.trans attempts
    omega
  obtain ⟨once, response, rfl, alike⟩ := delivered (by simp [fates])
  refine ⟨attempts, by decide +kernel, response, replied, alike.status_eq.trans (by decide +kernel),
    alike, once⟩

end RetryPolicy

end TupleClient
