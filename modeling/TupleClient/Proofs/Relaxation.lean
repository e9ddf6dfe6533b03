import TupleClient.Proofs.Convergence

/-!
# Policies that reject less

A policy that rejects fewer conflicts lets through what a stricter one lets through, and what a
request does once it is let through does not depend on the policy. So as long as a transaction under
the stricter policy goes on, the same transaction under the other policy keeps up with it, and both
leave the same service behind, chunk by chunk.

## Main definitions

* `ConflictPolicy.RelaxedTo` — another policy ignores what this one ignores, and maybe more

## Main results

* `Store.conflict?_of_relaxedTo` — one operation under the two policies
* `Service.verdict_of_relaxedTo`, `Transaction.serveAll_of_relaxedTo` — one request, and those of
  several chunks
* `Transaction.execute_relaxed` — a transaction under the two policies
-/

namespace TupleClient

/-- The other directive is the same, or it ignores what this one rejects. -/
def Directive.RelaxedTo (d d' : Directive) : Prop := d' = d ∨ (d = .error ∧ d' = .ignore)

/-- The other policy differs at most in that it ignores conflicts that this one rejects. -/
structure ConflictPolicy.RelaxedTo (p p' : ConflictPolicy) : Prop where
  onDuplicateWrite : p.onDuplicateWrite.RelaxedTo p'.onDuplicateWrite
  onMissingDelete : p.onMissingDelete.RelaxedTo p'.onMissingDelete

theorem Directive.RelaxedTo.eq_error {d d' : Directive} (h : d.RelaxedTo d')
    (rejects : d' = .error) : d = .error := by
  rcases h with same | ⟨error, -⟩
  · exact same.symm.trans rejects
  · exact error

theorem ConflictPolicy.strict_relaxedTo (p : ConflictPolicy) : strict.RelaxedTo p := by
  have relaxed (d : Directive) : Directive.error.RelaxedTo d := by
    cases d with
    | error => exact .inl rfl
    | ignore => exact .inr ⟨rfl, rfl⟩
  exact ⟨relaxed _, relaxed _⟩

variable {p p' : ConflictPolicy}

/-- An operation in conflict under a policy is in conflict under a stricter one. -/
theorem Store.Conflicts.of_relaxedTo {s : Store} {op : Operation} (relaxed : p.RelaxedTo p')
    (h : s.Conflicts p' op) : s.Conflicts p op := by
  cases op with
  | write t =>
    obtain ⟨condition, found, conflict⟩ := h
    exact ⟨condition, found, conflict.imp_right relaxed.onDuplicateWrite.eq_error⟩
  | delete key => exact ⟨h.1, relaxed.onMissingDelete.eq_error h.2⟩

/-- An operation that a policy lets through is let through by a policy that rejects less. -/
theorem Store.conflict?_of_relaxedTo {s : Store} {op : Operation} (relaxed : p.RelaxedTo p')
    (free : s.conflict? p op = none) : s.conflict? p' op = none := by
  rw [conflict?_eq_none_iff] at free ⊢
  exact mt (Conflicts.of_relaxedTo relaxed) free

namespace Service

variable {t : Transaction} {chunk : Chunk} {limit : ℕ} {s s' : Service}

/-- A chunk that is accepted is accepted under a policy that rejects less, with the same effect. -/
theorem verdict_of_relaxedTo {stores stores' : Table String Store} (relaxed : t.policy.RelaxedTo p')
    (accepted : verdict limit stores (t.request chunk) = .ok stores') :
    verdict limit stores (Transaction.request { t with policy := p' } chunk) = .ok stores' := by
  obtain ⟨storeId, store, route, found, nonempty, fits, distinct, free, rfl⟩ :=
    verdict_request_eq_ok_iff.mp accepted
  -- The address of a request does not depend on the policy.
  have sameRoute : route? (Transaction.request { t with policy := p' } chunk) = some storeId :=
    route
  exact verdict_request_eq_ok_iff.mpr ⟨storeId, store, sameRoute, found, nonempty, fits, distinct,
    fun op member => Store.conflict?_of_relaxedTo relaxed (free op member), rfl⟩

theorem serve_of_relaxedTo (relaxed : t.policy.RelaxedTo p')
    (served : s.serve (t.request chunk) = some s') :
    s.serve (Transaction.request { t with policy := p' } chunk) = some s' := by
  obtain ⟨stores, accepted, rfl⟩ := serve_eq_some_iff.mp served
  exact serve_eq_some_iff.mpr ⟨stores, verdict_of_relaxedTo relaxed accepted, rfl⟩

end Service

namespace Transaction

variable {limit : ChunkLimit} {cs : ChangeSet} {t : Transaction} {s s' : Service}

/-- Chunks that are served are served under a policy that rejects less, with the same effect. -/
theorem serveAll_of_relaxedTo (relaxed : t.policy.RelaxedTo p') {count : ℕ}
    (ran : s.serveAll (firstRequests limit cs t count) = some s') :
    s.serveAll (firstRequests limit cs { t with policy := p' } count) = some s' := by
  induction count generalizing s' with
  | zero => exact ran
  | succ count ih =>
    rw [firstRequests_succ, Service.serveAll_concat, Option.bind_eq_some_iff] at ran ⊢
    obtain ⟨reached, before, served⟩ := ran
    exact ⟨reached, ih before, Service.serve_of_relaxedTo relaxed served⟩

/-- A transaction that succeeds also succeeds under a policy that rejects less. -/
theorem success_of_relaxedTo {call : CallMetadata} {watch : Watch} {w : World Service}
    {summary : Summary} (relaxed : p.RelaxedTo p')
    (succeeded : (execute Service.link limit cs p call watch w).1 = .success summary) :
    let strict := execute Service.link limit cs p call watch w
    let lenient := execute Service.link limit cs p' call watch w
    lenient.1 = .success summary ∧ lenient.2.far = strict.2.far := by
  intro strict lenient
  rcases eq_or_ne cs.size 0 with empty | nonempty
  · obtain ⟨ended, kept, -⟩ := execute_of_size_eq_zero Service.link limit p call watch w empty
    obtain ⟨ended', kept', -⟩ := execute_of_size_eq_zero Service.link limit p' call watch w empty
    exact ⟨ended'.trans (ended.symm.trans succeeded), kept'.trans kept.symm⟩
  · obtain ⟨storeId, stored, running, ran, rfl, -⟩ := serveAll_of_success nonempty succeeded
    exact execute_of_serveAll w stored running (serveAll_of_relaxedTo relaxed ran)

/-- A transaction that succeeds also succeeds under a policy that rejects less, with the same totals
and the same effect. So where it fails under that policy, it fails there or earlier under the
stricter one. -/
theorem execute_relaxed (limit : ChunkLimit) (cs : ChangeSet) (call : CallMetadata) (watch : Watch)
    (w : World Service) (relaxed : p.RelaxedTo p') :
    let strict := execute Service.link limit cs p call watch w
    let lenient := execute Service.link limit cs p' call watch w
    (∀ summary, strict.1 = .success summary →
      lenient.1 = .success summary ∧ lenient.2.far = strict.2.far) ∧
    ∀ failure k, lenient.1 = .failed failure k →
      ∃ failure' j, strict.1 = .failed failure' j ∧ j ≤ k := by
  intro strict lenient
  refine ⟨fun _ => success_of_relaxedTo relaxed, fun failure k failed => ?_⟩
  cases ended : strict.1 with
  | success summary =>
    exact absurd failed (Outcome.success_ne_failed (success_of_relaxedTo relaxed ended).1)
  | failed failure' j =>
    refine ⟨failure', j, rfl, ?_⟩
    have nonempty : cs.size ≠ 0 := by
      intro empty
      have succeeded := (execute_of_size_eq_zero Service.link limit p' call watch w empty).1
      exact Outcome.success_ne_failed succeeded failed
    rcases sent_or_failed cs Service.link limit p call watch w nonempty with
      ⟨storeId, stored, running⟩ | ⟨_, atOnce⟩
    · by_contra later
      -- The stricter transaction got past chunk `k`, so the other one did not fail there.
      obtain ⟨⟨reached, before⟩, -⟩ := serveAll_of_failed stored running ended
      obtain ⟨passed, ran⟩ := exists_serveAll_of_le before (Nat.succ_le_of_lt (not_le.mp later))
      have stuck := (serveAll_of_failed stored running failed).2
      exact absurd ((serveAll_of_relaxedTo relaxed ran).symm.trans stuck) (by simp)
    · obtain ⟨-, rfl⟩ := Outcome.failed.inj (ended.symm.trans atOnce)
      exact Nat.zero_le k

/-- A handover under the strict policy and under one that passes over missing deletes: both succeed
if the second user is there, and both fail if the first one is there already. -/
theorem execute_relaxed_handover :
    let lenient : ConflictPolicy := ⟨.error, .ignore⟩
    let call : CallMetadata := { storeId := some "s" }
    let ready := (Service.createStore {} "s").seed "s" (ChangeSet.reader "bob")
    let taken := (Service.createStore {} "s").seed "s" (ChangeSet.reader "anne")
    let execute (policy : ConflictPolicy) (s : Service) :=
      execute Service.link ⟨1, by decide⟩ ChangeSet.handover policy call .token ⟨s, false, []⟩
    (execute .strict ready).1 = .success ⟨2, 1, 1⟩ ∧
      (execute lenient ready).1 = .success ⟨2, 1, 1⟩ ∧
      (execute lenient ready).2.far = (execute .strict ready).2.far ∧
      ∃ failure failure', (execute lenient taken).1 = .failed failure 0 ∧
        (execute .strict taken).1 = .failed failure' 0 := by
  intro lenient call ready taken execute
  have relaxed (s : Service) := execute_relaxed ⟨1, by decide⟩ ChangeSet.handover call .token
    ⟨s, false, []⟩ (ConflictPolicy.strict_relaxedTo lenient)
  have succeeded : (execute .strict ready).1 = .success ⟨2, 1, 1⟩ := by decide +kernel
  obtain ⟨same, sameEnd⟩ := (relaxed ready).1 _ succeeded
  let response := (taken.handle (request ⟨"s", lenient, call, .token⟩
    (ChangeSet.handover.chunkAt ⟨1, by decide⟩ 0))).1
  have failed : (execute lenient taken).1 = .failed
      (.ofResponse (some response.status) response.body (some response.headers) call) 0 := by
    decide +kernel
  obtain ⟨failure', j, failed', before⟩ := (relaxed taken).2 _ 0 failed
  obtain rfl := Nat.le_zero.mp before
  exact ⟨succeeded, same, sameEnd, _, failure', failed, failed'⟩

end Transaction

end TupleClient
