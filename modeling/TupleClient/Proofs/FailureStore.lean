import TupleClient.Proofs.ClientTasks
import TupleClient.Proofs.Windows

/-!
# The store that a failure names

A failure names the store that it is about. If the failing reply reports a store, it is that one,
and otherwise the one known where the call was made. A client always knows its configured store, so
none of its transactions loses it, whether it fails at a reply, is stopped or refuses its tuples. A
single request is sent for the store that it names itself, if it names one. A name that is blank
counts as one when the request is made ready, but not when the failure is put together: then the
failure names no store, unless the reply reports one.

## Main definitions

* `Reply.storeHeader?` — the store that a reply reports
* `Failure.NamesStore` — a failure names the reported store, or else a known one
* `Link.hearing`, `Reply.failing?` — the replies to the calls of a link, and the one that fails

## Main results

* `Reply.storeId_of_result`, `Failure.namesStore_of_call` — the store in the context of a failure
* `Transaction.execute_namesStore` — the failure of a transaction names its store
* `Client.namesStore` — the failures of a client, with the requests whose failures name no store
-/

namespace TupleClient

/-! ## Trimmed texts -/

namespace Text

theorem mem_dropWhile {α : Type} {p : α → Bool} {c : α} {cs : List α} (member : c ∈ cs)
    (stays : p c = false) : c ∈ cs.dropWhile p := by
  induction cs with
  | nil => simp at member
  | cons d rest ih =>
    by_cases drops : p d = true
    · have other : c ≠ d := by
        rintro rfl
        simp [stays] at drops
      rw [List.dropWhile_cons_of_pos drops]
      exact ih ((List.mem_cons.mp member).resolve_left other)
    · rwa [List.dropWhile_cons_of_neg drops]

/-- A text that is not blank is not blank when it is trimmed. -/
theorem isBlank_trim {s : String} (notBlank : isBlank s = false) : isBlank (trim s) = false := by
  simp only [isBlank, List.all_eq_false, Bool.not_eq_true] at notBlank ⊢
  obtain ⟨c, member, stays⟩ := notBlank
  refine ⟨c, ?_, stays⟩
  have fromLeft := mem_dropWhile member stays
  have fromRight := mem_dropWhile (List.mem_reverse.mpr fromLeft) stays
  simpa [trim, trimList] using fromRight

end Text

/-! ## Reported stores -/

/-- The value found under the names is the first one that is present and not blank. -/
theorem Headers.firstOf?_eq_findSome? (h : Headers) (names : List String) :
    h.firstOf? names =
      names.findSome? fun name => (h.get? name).filter fun value => !Text.isBlank value := by
  induction names with
  | nil => rfl
  | cons name rest ih =>
    rw [firstOf?, List.findSome?_cons, ← ih]
    cases h.get? name with
    | none => rfl
    | some value => cases blank : Text.isBlank value <;> simp [Option.filter, blank]

namespace Reply

/-- The store that a reply reports: the first value among its names that is not blank. -/
def storeHeader? : Reply → Option String
  | response r => HeaderNames.storeId.findSome? fun name =>
      (r.headers.get? name).filter fun value => !Text.isBlank value
  | failure _ => none

/-- The first reply that is not a success. -/
def failing? (replies : List Reply) : Option Reply := replies.find? fun reply => !reply.isSuccess

variable {reply : Reply} {call : CallMetadata} {failure : Failure}

theorem isBlank_of_storeHeader? {id : String} (reported : reply.storeHeader? = some id) :
    Text.isBlank id = false := by
  cases reply with
  | failure e => simp [storeHeader?] at reported
  | response r =>
    obtain ⟨name, -, found⟩ := List.exists_of_findSome?_eq_some reported
    simpa using (Option.filter_eq_some_iff.mp found).2

/-- The store in the context of a failure: the one that the reply reports, or else the one of the
call, unless it is blank. -/
theorem storeId_of_result (rejected : reply.result call = .error failure) :
    failure.context.storeId = reply.storeHeader?.or (call.storeId.bind Text.nonBlank) := by
  cases reply with
  | failure e =>
    obtain rfl := Except.error.inj rejected
    rfl
  | response r =>
    rw [result] at rejected
    split at rejected
    · simp at rejected
    · obtain rfl := Except.error.inj rejected
      simp only [Failure.ofResponse, CallContext.capture, CallContext.reported, Option.bind_some,
        Headers.firstOf?_eq_findSome?, storeHeader?, Option.orElse_eq_orElse, Option.orElse_eq_or]

theorem failing?_eq_none {replies : List Reply} (all : ∀ reply ∈ replies, reply.isSuccess = true) :
    failing? replies = none := by
  simpa [failing?, List.find?_eq_none] using all

theorem failing?_concat {replies : List Reply} (all : ∀ reply ∈ replies, reply.isSuccess = true)
    (failed : reply.isSuccess = false) : failing? (replies ++ [reply]) = some reply := by
  have earlier := failing?_eq_none all
  rw [failing?] at earlier ⊢
  simp [List.find?_append, earlier, failed]

end Reply

/-- A failure names the store that the failing reply reports, if it reports one, or else a store
that is known, without blanks around it. In either case it is not blank. -/
structure Failure.NamesStore (failure : Failure) (failing : Option Reply) (known : String) :
    Prop where
  storeId_eq : failure.context.storeId =
    some ((failing.bind Reply.storeHeader?).getD (Text.trim known))
  notBlank : ∀ id, failure.context.storeId = some id → Text.isBlank id = false

/-- The failure of a call that is made for a store names it, unless the reply reports another. -/
theorem Failure.namesStore_of_call {failure : Failure} {failing : Option Reply} {known : String}
    {call : CallMetadata} (given : call.storeId = some known)
    (notBlank : Text.isBlank known = false)
    (captured : failure.context.storeId =
      (failing.bind Reply.storeHeader?).or (call.storeId.bind Text.nonBlank)) :
    failure.NamesStore failing known := by
  have trimmed : call.storeId.bind Text.nonBlank = some (Text.trim known) := by
    simp [given, Text.nonBlank, notBlank]
  rw [trimmed] at captured
  -- What is reported is not blank by the way it is looked for, what is known only by assumption.
  cases reported : failing.bind Reply.storeHeader? with
  | none =>
    rw [reported, Option.none_or] at captured
    refine ⟨by rw [captured, reported, Option.getD_none], fun id named => ?_⟩
    obtain rfl := Option.some.inj (captured.symm.trans named)
    exact Text.isBlank_trim notBlank
  | some header =>
    rw [reported, Option.some_or] at captured
    refine ⟨by rw [captured, reported, Option.getD_some], fun id named => ?_⟩
    obtain rfl := Option.some.inj (captured.symm.trans named)
    obtain ⟨reply, -, there⟩ := Option.bind_eq_some_iff.mp reported
    exact Reply.isBlank_of_storeHeader? there

/-! ## Replies to calls -/

variable {σ : Type}

/-- The link that also keeps the replies to its calls, in order. -/
def Link.hearing (link : Link σ) : Link (σ × List Reply) := fun watch r w =>
  match link watch r ⟨w.far.1, w.cancelled, w.log⟩ with
  | (.answered reply, carried) =>
    (.answered reply, ⟨(carried.far, w.far.2 ++ [reply]), carried.cancelled, carried.log⟩)
  | (.abandoned, carried) =>
    (.abandoned, ⟨(carried.far, w.far.2), carried.cancelled, carried.log⟩)

namespace Link

variable {link : Link σ} {watch : Watch} {r : Request} {w w' : World (σ × List Reply)}

theorem hearing_answered {reply : Reply}
    (answered : link.hearing watch r w = (.answered reply, w')) :
    w'.far.2 = w.far.2 ++ [reply] := by
  unfold hearing at answered
  split at answered
  · obtain ⟨same, rfl⟩ := Prod.mk.inj answered
    obtain rfl := Flight.answered.inj same
    rfl
  · simp at answered

theorem hearing_abandoned (abandoned : link.hearing watch r w = (.abandoned, w')) :
    w'.far.2 = w.far.2 := by
  unfold hearing at abandoned
  split at abandoned
  · simp at abandoned
  · obtain rfl := (Prod.mk.inj abandoned).2
    rfl

end Link

/-! ## Transactions -/

section

variable (link : Link σ) (w : World σ)

/-- The failure of a transaction names its store, unless the failing reply reports another. -/
theorem Transaction.execute_namesStore (limit : ChunkLimit) (cs : ChangeSet)
    (policy : ConflictPolicy) {call : CallMetadata} (watch : Watch) {storeId : String}
    (stored : storeId? call = some storeId) :
    let result := execute link.hearing limit cs policy call watch ⟨(w.far, []), w.cancelled, w.log⟩
    ∀ failure i, result.1 = .failed failure i →
      failure.NamesStore (Reply.failing? result.2.far.2) storeId := by
  intro result failure i failed
  obtain ⟨given, notBlank⟩ := storeId?_eq_some_iff.mp stored
  -- As long as the transaction goes on, it has heard of nothing but successes.
  let P : ℕ → σ × List Reply → Bool → Prop := fun _ far _ =>
    ∀ reply ∈ far.2, reply.isSuccess = true
  have preserved : Preserved ⟨storeId, policy, call, watch⟩ link.hearing (cs.split limit) P := by
    rintro j chunk u u' - successes sent
    obtain ⟨-, reply, u₁, answered, success, far, -⟩ := sendChunk_eq_none sent
    intro other heard
    rw [far, Link.hearing_answered answered] at heard
    rcases List.mem_append.mp heard with earlier | latest
    · exact successes other earlier
    · rwa [List.mem_singleton.mp latest]
  rcases execute_cases ⟨(w.far, []), w.cancelled, w.log⟩ stored preserved (by simp [P]) with
    ⟨success, -⟩ | ⟨k, u, u', cause, -, successes, sent, ended, far, -⟩
  · exact absurd failed (Outcome.success_ne_failed success)
  · obtain ⟨rfl, -⟩ := Outcome.failed.inj (ended.symm.trans failed)
    refine Failure.namesStore_of_call given notBlank ?_
    have heard : Reply.failing? result.2.far.2 = Reply.failing? u'.far.2 :=
      congrArg (fun far => Reply.failing? far.2) far
    rw [heard]
    rcases sendChunk_eq_some sent with
      ⟨-, rfl, rfl⟩ | ⟨-, abandoned, rfl⟩ | ⟨-, reply, answered, rejected⟩
    · rw [Reply.failing?_eq_none successes]
      rfl
    · rw [Link.hearing_abandoned abandoned, Reply.failing?_eq_none successes]
      rfl
    · rw [Link.hearing_answered answered,
        Reply.failing?_concat successes (Reply.isSuccess_eq_false rejected)]
      exact Reply.storeId_of_result rejected

end

/-! ## Clients -/

namespace Client

variable (c : Client)

section

variable {link : Link σ} {w : World σ} {task : ClientTask} {failure : Failure}

/-- The failure of a task names the configured store, unless the failing reply reports another. -/
theorem run_namesStore {i : ℕ} :
    let result := c.run link.hearing task ⟨(w.far, []), w.cancelled, w.log⟩
    result.1 = .failed failure i →
      failure.NamesStore (Reply.failing? result.2.far.2) c.storeId := by
  intro result failed
  rcases c.run_cases link.hearing task ⟨(w.far, []), w.cancelled, w.log⟩ with
    ⟨e, operation, refused⟩ | ⟨cs, policy, operation, watch, executed⟩
  · simp only [result, refused] at failed ⊢
    obtain ⟨rfl, -⟩ := Outcome.failed.inj failed
    have given : (c.callMetadata operation).storeId = some c.storeId := rfl
    exact Failure.namesStore_of_call given c.valid.store rfl
  · simp only [result, executed] at failed ⊢
    exact Transaction.execute_namesStore link w c.limit cs policy watch
      (c.storeId?_callMetadata operation) failure i failed

variable (operation : String) (r : Request)

/-- A single request that fails gets one reply, which is turned into the failure. -/
theorem send_eq_error :
    let result := c.send link.hearing operation r ⟨(w.far, []), w.cancelled, w.log⟩
    result.1 = some (.error failure) → ∃ reply, Reply.failing? result.2.far.2 = some reply ∧
      reply.result (c.prepare operation r).call = .error failure := by
  intro result failed
  simp only [result, send] at failed ⊢
  split at failed
  · simp at failed
  · next reply w' answered =>
    have rejected := Option.some.inj failed
    refine ⟨reply, ?_, rejected⟩
    dsimp only
    rw [Link.hearing_answered answered]
    exact Reply.failing?_concat (by simp) (Reply.isSuccess_eq_false rejected)

/-- The store for which a single request is sent: the one that it names, blank or not, or else the
configured one. -/
theorem storeId_prepare :
    (c.prepare operation r).call.storeId = some (r.call.storeId.getD c.storeId) := by
  rw [prepare]
  cases r.call.storeId <;> rfl

end

/-- No failure of a client loses its store, unless a single request is sent for a blank one.

Every failure of a task names the configured store, unless the failing reply reports another one. So
does the failure of a single request that names no store; if it names one that is not blank, it is
this one. But a blank store of a single request stands in the way of the configured one, and its
failure names the store that the reply reports or none at all. -/
theorem namesStore (link : Link σ) (w : World σ) :
    let start : World (σ × List Reply) := ⟨(w.far, []), w.cancelled, w.log⟩
    (∀ task failure i, let result := c.run link.hearing task start
      result.1 = .failed failure i →
        failure.NamesStore (Reply.failing? result.2.far.2) c.storeId) ∧
    ∀ operation r failure, let result := c.send link.hearing operation r start
      let failing := Reply.failing? result.2.far.2
      result.1 = some (.error failure) →
        (r.call.storeId = none → failure.NamesStore failing c.storeId) ∧
        (∀ id, r.call.storeId = some id → Text.isBlank id = false →
          failure.NamesStore failing id) ∧
        ∀ id, r.call.storeId = some id → Text.isBlank id = true →
          failure.context.storeId = failing.bind Reply.storeHeader? := by
  intro start
  refine ⟨fun task failure i => c.run_namesStore, ?_⟩
  intro operation r failure result failing failed
  obtain ⟨reply, heard, rejected⟩ := c.send_eq_error operation r failed
  have captured := Reply.storeId_of_result rejected
  have failing_eq : failing = some reply := heard
  rw [failing_eq, Option.bind_some]
  have sentFor := c.storeId_prepare operation r
  refine ⟨fun unnamed => ?_, fun id named notBlank => ?_, fun id named blank => ?_⟩
  · rw [unnamed] at sentFor
    exact Failure.namesStore_of_call sentFor c.valid.store captured
  · rw [named] at sentFor
    exact Failure.namesStore_of_call sentFor notBlank captured
  · rw [captured, sentFor, named]
    simp [Text.nonBlank, blank]

/-- Where the service cannot be reached, a transaction and a single request that names no store fail
with the name of the configured one. -/
theorem namesStore_unreachable :
    let c := ofStore " s " (by decide +kernel)
    let link : Link Unit := fun _ _ w => (.answered (.failure ⟨.connection, ""⟩), w)
    let start : World (Unit × List Reply) := ⟨((), []), false, []⟩
    (∃ failure, (c.run link.hearing (.writeTuples [ChangeSet.reader "anne"] none) start).1 =
        .failed failure 0 ∧ failure.context.storeId = some "s") ∧
      ∃ failure, (c.send link.hearing "check" { method := .get, path := "/x" } start).1 =
        some (.error failure) ∧ failure.context.storeId = some "s" := by
  intro c link start
  obtain ⟨tasks, requests⟩ := c.namesStore link ⟨(), false, []⟩
  constructor
  · let failure : Failure := .ofTransport "connection error: " (c.callMetadata writeOperation)
    have failed : (c.run link.hearing (.writeTuples [ChangeSet.reader "anne"] none) start).1 =
        .failed failure 0 := by decide +kernel
    refine ⟨failure, failed, (tasks _ failure 0 failed).storeId_eq.trans ?_⟩
    decide +kernel
  · obtain ⟨failure, failed⟩ : ∃ failure,
        (c.send link.hearing "check" { method := .get, path := "/x" } start).1 =
          some (.error failure) := ⟨_, rfl⟩
    obtain ⟨unnamed, -⟩ := requests "check" _ failure failed
    refine ⟨failure, failed, (unnamed rfl).storeId_eq.trans ?_⟩
    decide +kernel

/-- The failure of a single request that names a blank store names no store, although the client has
one. -/
theorem send_blank_store :
    let c := ofStore "s" (by decide +kernel)
    let link : Link Unit := fun _ _ w => (.answered (.failure ⟨.connection, ""⟩), w)
    let r : Request := { method := .get, path := "/x", call := { storeId := some "  " } }
    ∃ failure, (c.send link "check" r ⟨(), false, []⟩).1 = some (.error failure) ∧
      failure.context.storeId = none :=
  ⟨_, rfl, by decide +kernel⟩

end Client

end TupleClient
