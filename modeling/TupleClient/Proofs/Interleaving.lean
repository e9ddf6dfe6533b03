import Mathlib.Logic.Function.Iterate
import Mathlib.Logic.Pairwise
import TupleClient.Proofs.Batching
import TupleClient.Proofs.Footprint

/-!
# Transactions of several clients

Several clients execute change sets at the same service. Their chunks arrive in any order, except
that each client waits for the reply to one chunk before it sends the next. If no key is named by
two of the change sets, then no client notices the others, and the stores end up as if the clients
had come one after the other.

## Main definitions

* `Party`, `Stage`, `Party.turn` — a client, how far it has come, and its next step
* `Party.alone` — a client that has the service for itself
* `Joint.run` — several clients that take turns as a schedule says
* `Joint.inOrder` — the service after clients that came one after the other
* `Outcome.unnumbered` — an outcome without the number of the failed request
* `Service.contents` — what is found in the stores, whatever the order of the entries

## Main results

* `Party.alone_eq_execute` — turns alone add up to the execution of the change set
* `Party.Alike.turn`, `Party.agreeOn_turn` — what a turn depends on, and what it leaves alone
* `Joint.run_alike` — no client notices the others
* `Joint.run_independent` — outcomes and stores after clients took turns
-/

namespace TupleClient

/-! ## Failures without numbers -/

/-- A failure without the number of the request. -/
def Failure.unnumbered (f : Failure) : Failure :=
  { f with context := { f.context with requestId := none } }

/-- An outcome without the number of the failed request. -/
def Outcome.unnumbered : Outcome → Outcome
  | success summary => success summary
  | failed failure k => failed failure.unnumbered k

/-- The failure that a response reports, unless it reports success. -/
def Response.failure? (r : Response) (call : CallMetadata) : Option Failure :=
  if r.isSuccess then none else some (.ofResponse (some r.status) r.body (some r.headers) call)

theorem Headers.firstOf?_congr {h k : Headers} {names : List String}
    (same : ∀ name ∈ names, h.get? name = k.get? name) : h.firstOf? names = k.firstOf? names := by
  induction names with
  | nil => rfl
  | cons name rest ih =>
    obtain ⟨first, others⟩ := List.forall_mem_cons.mp same
    rw [firstOf?, firstOf?, first, ih others]

/-- Responses that say the same report the same failure. -/
theorem Response.Alike.failure?_eq {a b : Response} (h : a.Alike b) (call : CallMetadata) :
    (a.failure? call).map Failure.unnumbered = (b.failure? call).map Failure.unnumbered := by
  have reported (names : List String)
      (others : ∀ name ∈ names, Text.lower name ≠ "fga-request-id") :
      CallContext.reported (some a.headers) names = CallContext.reported (some b.headers) names :=
    Headers.firstOf?_congr fun name member => h.headers_eq name (others name member)
  have storeId := reported HeaderNames.storeId (by decide +kernel)
  have model := reported HeaderNames.authorizationModelId (by decide +kernel)
  unfold failure? isSuccess
  rw [h.status_eq, h.body_eq]
  split
  · rfl
  · simp [Failure.unnumbered, Failure.ofResponse, CallContext.capture, storeId, model]

/-! ## One client -/

/-- A client that executes a change set. -/
structure Party where
  limit : ChunkLimit
  changes : ChangeSet
  policy : ConflictPolicy
  call : CallMetadata
  watch : Watch := .token
  /-- Whether the client's token is cancelled. -/
  cancelled : Bool := false

/-- How far a client has come. -/
inductive Stage where
  /-- So many chunks have succeeded. -/
  | sending (count : ℕ)
  /-- A chunk has failed. -/
  | failed (failure : Failure) (chunkIndex : ℕ)

namespace Stage

/-- The stage after one more chunk, which failed or succeeded. -/
def next (count : ℕ) : Option Failure → Stage
  | some failure => failed failure count
  | none => sending (count + 1)

/-- A stage without the number of the failed request. -/
def unnumbered : Stage → Stage
  | sending count => sending count
  | failed failure k => failed failure.unnumbered k

theorem unnumbered_next (count : ℕ) (failure? : Option Failure) :
    (next count failure?).unnumbered = next count (failure?.map Failure.unnumbered) := by
  cases failure? <;> rfl

/-- Stages that are the same apart from numbers. -/
theorem unnumbered_eq_cases {a b : Stage} (same : a.unnumbered = b.unnumbered) :
    (∃ count, a = sending count ∧ b = sending count) ∨
      ∃ f g k, a = failed f k ∧ b = failed g k ∧ f.unnumbered = g.unnumbered := by
  cases a with
  | sending count =>
    cases b with
    | sending count' => exact .inl ⟨count, rfl, same.symm⟩
    | failed g k => simp [unnumbered] at same
  | failed f k =>
    cases b with
    | sending count => simp [unnumbered] at same
    | failed g k' =>
      obtain ⟨sameFailure, rfl⟩ := Stage.failed.inj same
      exact .inr ⟨f, g, k, rfl, rfl, sameFailure⟩

end Stage

namespace Party

/-- The world in which a client meets a service. -/
def world (party : Party) (s : Service) : World Service := ⟨s, party.cancelled, []⟩

/-- What comes of a client's change set, and the service after it. -/
def execute (party : Party) (s : Service) : Outcome × Service :=
  let result := Transaction.execute Service.link party.limit party.changes party.policy party.call
    party.watch (party.world s)
  (result.1, result.2.far)

/-- The number of chunks of a client. -/
def chunkCount (party : Party) : ℕ := party.changes.chunkCount party.limit

/-- What the requests of a client have in common. -/
def transaction (party : Party) : Transaction :=
  ⟨(Transaction.storeId? party.call).getD "", party.policy, party.call, party.watch⟩

/-- The chunk at a position. -/
def chunk (party : Party) (index : ℕ) : Chunk := party.changes.chunkAt party.limit index

/-- A client before it has sent anything. One that has no store to write to is not going to. -/
def start (party : Party) : Stage :=
  if party.changes.size ≠ 0 ∧ Transaction.storeId? party.call = none then
    .failed (.ofInput "a store id is required to write tuples" party.call) 0
  else .sending 0

/-- The outcome of a client that has nothing more to send. -/
def outcome? (party : Party) : Stage → Option Outcome
  | .sending count =>
    if count < party.chunkCount then none
    else some (.success (Transaction.totals party.limit party.changes))
  | .failed failure k => some (.failed failure k)

/-- A client's turn: it sends its next chunk, if there is one, and receives the reply. -/
def turn (party : Party) : Stage × Service → Stage × Service
  | (.sending count, s) =>
    if count < party.chunkCount then
      let result := party.transaction.sendChunk Service.link (party.chunk count) (party.world s)
      (.next count result.1, result.2.far)
    else (.sending count, s)
  | (.failed failure k, s) => (.failed failure k, s)

/-- A client that has the service for itself, after so many turns. -/
def alone (party : Party) (s : Service) (turns : ℕ) : Stage × Service :=
  party.turn^[turns] (party.start, s)

/-- The keys that a client names. -/
def keys (party : Party) : List TupleKey := party.changes.operations.map Operation.key

/-- The cells that a client's requests may touch, in whatever store. -/
def cells (party : Party) : Set Cell := {cell | cell.2 ∈ party.keys}

end Party

/-- Over the service, what comes of a chunk depends on the service and the token alone. -/
theorem Transaction.sendChunk_service_eq (t : Transaction) (chunk : Chunk) (w : World Service) :
    let result := t.sendChunk Service.link chunk w
    result.2.cancelled = w.cancelled ∧ (result.1, result.2.far) =
      if w.isStopped t.watch then (some (.cancellation t.call), w.far)
      else ((w.far.handle (t.request chunk)).1.failure? t.call, w.far.after (t.request chunk)) := by
  by_cases stopped : w.isStopped t.watch = true
  · simp [sendChunk, stopped]
  · obtain ⟨w', far, cancelled, sent⟩ :=
      t.sendChunk_service chunk (w := w) (by simpa using stopped)
    rw [sent, if_neg stopped]
    exact ⟨cancelled, congrArg _ far⟩

namespace Party

variable {party : Party} {a b s : Service} {count : ℕ}

/-- The request that a client sends after so many chunks. -/
def request (party : Party) (count : ℕ) : Request := party.transaction.request (party.chunk count)

/-- A turn in which there is something to send. -/
theorem turn_sending (inside : count < party.chunkCount) (s : Service) :
    party.turn (.sending count, s) =
      if (party.world s).isStopped party.watch then
        (.failed (.cancellation party.call) count, s)
      else (.next count ((s.handle (party.request count)).1.failure? party.call),
        s.after (party.request count)) := by
  rw [turn, if_pos inside]
  obtain ⟨-, sent⟩ := party.transaction.sendChunk_service_eq (party.chunk count) (party.world s)
  by_cases stopped : (party.world s).isStopped party.watch = true
  · obtain ⟨failure, far⟩ := Prod.mk.inj (sent.trans (if_pos stopped))
    dsimp only
    rw [if_pos stopped, failure, far]
    rfl
  · obtain ⟨failure, far⟩ := Prod.mk.inj (sent.trans (if_neg stopped))
    dsimp only
    rw [if_neg stopped, failure, far]
    rfl

/-- What was logged before a turn plays no part in it. -/
theorem turn_eq_sendChunk (inside : count < party.chunkCount) {w : World Service}
    (token : w.cancelled = party.cancelled) :
    let result := party.transaction.sendChunk Service.link (party.chunk count) w
    party.turn (.sending count, w.far) = (.next count result.1, result.2.far) := by
  intro result
  obtain ⟨-, here⟩ := party.transaction.sendChunk_service_eq (party.chunk count) w
  obtain ⟨-, there⟩ :=
    party.transaction.sendChunk_service_eq (party.chunk count) (party.world w.far)
  have stopped : (party.world w.far).isStopped party.transaction.watch =
      w.isStopped party.transaction.watch := World.isStopped_congr token.symm _
  rw [stopped] at there
  obtain ⟨failure, far⟩ := Prod.mk.inj (there.trans here.symm)
  rw [turn, if_pos inside]
  dsimp only
  rw [failure, far]

/-- A client that has nothing more to send is left alone by its turns. -/
theorem turn_of_ended {x : Stage × Service} (ended : (party.outcome? x.1).isSome = true) :
    party.turn x = x := by
  obtain ⟨stage, s⟩ := x
  cases stage with
  | failed failure k => rfl
  | sending count =>
    have finished : ¬ count < party.chunkCount := by
      intro inside
      simp [outcome?, inside] at ended
    exact if_neg finished

/-! ### Turns alone -/

theorem alone_succ (party : Party) (s : Service) (turns : ℕ) :
    party.alone s (turns + 1) = party.turn (party.alone s turns) :=
  Function.iterate_succ_apply' _ _ _

/-- Once a client has nothing more to send, it stays where it is. -/
theorem alone_of_ended {turns more : ℕ}
    (ended : (party.outcome? (party.alone s turns).1).isSome = true)
    (later : turns ≤ more) : party.alone s more = party.alone s turns := by
  obtain ⟨rest, rfl⟩ := Nat.exists_eq_add_of_le' later
  rw [alone, Function.iterate_add_apply]
  exact Function.iterate_fixed (turn_of_ended ended) rest

/-- After some turns alone, at most one for each chunk, the end of the execution is reached. -/
def ReachesEnd (party : Party) (s : Service) : Prop :=
  ∃ turns ≤ party.chunkCount, party.outcome? (party.alone s turns).1 = some (party.execute s).1 ∧
    (party.alone s turns).2 = (party.execute s).2

theorem reachesEnd_of_size_eq_zero (empty : party.changes.size = 0) (s : Service) :
    party.ReachesEnd s := by
  have noChunks : party.chunkCount = 0 := (ChangeSet.chunkCount_eq_zero_iff _ _).mpr empty
  obtain ⟨succeeded, far, -⟩ := Transaction.execute_of_size_eq_zero Service.link party.limit
    party.policy party.call party.watch (party.world s) empty
  have idle : party.start = .sending 0 := if_neg fun starved => starved.1 empty
  refine ⟨0, Nat.zero_le _, ?_, far.symm⟩
  rw [execute, succeeded, alone, Function.iterate_zero_apply, idle, outcome?, noChunks,
    Transaction.totals_of_size_eq_zero empty]
  rfl

theorem reachesEnd_of_storeId?_eq_none (nonempty : party.changes.size ≠ 0)
    (missing : Transaction.storeId? party.call = none) (s : Service) : party.ReachesEnd s := by
  obtain ⟨failed, far, -⟩ := Transaction.execute_of_storeId?_eq_none Service.link party.limit
    party.policy party.watch (party.world s) nonempty missing
  have starved : party.start =
      .failed (.ofInput "a store id is required to write tuples" party.call) 0 :=
    if_pos ⟨nonempty, missing⟩
  refine ⟨0, Nat.zero_le _, ?_, far.symm⟩
  rw [execute, failed, alone, Function.iterate_zero_apply, starved, outcome?]

theorem reachesEnd_of_storeId?_eq_some {storeId : String}
    (stored : Transaction.storeId? party.call = some storeId) (s : Service) :
    party.ReachesEnd s := by
  have ready : party.start = .sending 0 := if_neg fun starved => by simp [stored] at starved
  have same : party.transaction = ⟨storeId, party.policy, party.call, party.watch⟩ := by
    rw [transaction, stored, Option.getD_some]
  -- As long as chunks succeed, the execution and the turns are at the same point.
  let P : ℕ → Service → Bool → Prop := fun i far flag =>
    flag = party.cancelled ∧ party.alone s i = (.sending i, far)
  have start : P 0 (party.world s).far (party.world s).cancelled := ⟨rfl, congrArg (·, s) ready⟩
  have preserved : Transaction.Preserved ⟨storeId, party.policy, party.call, party.watch⟩
      Service.link (party.changes.split party.limit) P := by
    rintro i chunk u u' found ⟨flag, reached⟩ succeeded
    obtain ⟨inside, rfl⟩ := (party.changes.getElem?_split_eq_some party.limit).mp found
    have moved := turn_eq_sendChunk inside flag
    have kept := (party.transaction.sendChunk_service_eq (party.chunk i) u).1
    rw [same, show Transaction.sendChunk _ Service.link (party.chunk i) u = (none, u') from
      succeeded] at moved kept
    exact ⟨kept.trans flag, by rw [alone_succ, reached]; exact moved⟩
  rcases Transaction.execute_cases (party.world s) stored preserved start with
    ⟨ended, -, reached⟩ | ⟨i, u, u', failure, inside, ⟨flag, reached⟩, failed, ended, far, -⟩
  · have reached : party.alone s party.chunkCount =
        (.sending party.chunkCount, (party.execute s).2) := reached
    refine ⟨party.chunkCount, le_rfl, ?_, congrArg Prod.snd reached⟩
    rw [reached, outcome?, if_neg (lt_irrefl _), execute, ended]
  · have moved := turn_eq_sendChunk inside flag
    rw [same, show Transaction.sendChunk _ Service.link (party.chunk i) u = (some failure, u') from
      failed, ← reached, ← alone_succ] at moved
    refine ⟨i + 1, inside, ?_, ?_⟩
    · rw [moved, execute, ended]
      rfl
    · rw [moved, execute, far]

theorem reachesEnd (party : Party) (s : Service) : party.ReachesEnd s := by
  rcases eq_or_ne party.changes.size 0 with empty | nonempty
  · exact reachesEnd_of_size_eq_zero empty s
  · cases stored : Transaction.storeId? party.call with
    | none => exact reachesEnd_of_storeId?_eq_none nonempty stored s
    | some storeId => exact reachesEnd_of_storeId?_eq_some stored s

/-- Turns alone add up to the execution of the change set. -/
theorem alone_eq_execute (party : Party) (s : Service) {turns : ℕ}
    (enough : party.chunkCount ≤ turns) :
    party.outcome? (party.alone s turns).1 = some (party.execute s).1 ∧
      (party.alone s turns).2 = (party.execute s).2 := by
  obtain ⟨first, early, outcome, service⟩ := party.reachesEnd s
  have ended : (party.outcome? (party.alone s first).1).isSome = true := by simp [outcome]
  rw [alone_of_ended ended (early.trans enough)]
  exact ⟨outcome, service⟩

/-- A client that alone has nothing more to send has executed its change set. -/
theorem execute_of_ended {turns : ℕ}
    (ended : (party.outcome? (party.alone s turns).1).isSome = true) :
    party.outcome? (party.alone s turns).1 = some (party.execute s).1 ∧
      (party.alone s turns).2 = (party.execute s).2 := by
  rw [← alone_of_ended ended (le_max_left turns party.chunkCount)]
  exact party.alone_eq_execute s (le_max_right _ _)

/-! ### What a turn depends on, and what it leaves alone -/

/-- A client's requests touch only cells of its own. -/
theorem touched_request (party : Party) (count : ℕ) :
    ∀ cell ∈ Service.touched (party.request count), cell ∈ party.cells := by
  intro cell touches
  obtain ⟨b, -, read, member⟩ := Service.mem_touched_iff.mp touches
  rw [WriteBody.keys_eq, Service.operations_of_readBody read] at member
  exact List.map_subset _ (party.changes.operations_chunkAt_subset party.limit count) member

/-- A turn leaves alone what is not in the client's cells. -/
theorem agreeOn_turn {cells : Set Cell} (apart : ∀ cell ∈ party.cells, cell ∉ cells) (stage : Stage)
    (s : Service) : Service.AgreeOn cells (party.turn (stage, s)).2 s := by
  cases stage with
  | failed failure k => exact .refl cells s
  | sending count =>
    by_cases inside : count < party.chunkCount
    · rw [turn_sending inside]
      split
      · exact .refl cells s
      · refine Service.agreeOn_after s fun cell touches => ?_
        exact apart cell (party.touched_request count cell touches)
    · rw [turn_of_ended (by simp [outcome?, inside])]
      exact .refl cells s

/-- The client is as far in two services that agree on its cells, apart from request numbers. -/
structure Alike (party : Party) (x y : Stage × Service) : Prop where
  stage_eq : x.1.unnumbered = y.1.unnumbered
  agree : Service.AgreeOn party.cells x.2 y.2

/-- The next chunk comes to the same in services that agree on the client's cells. -/
theorem turn_alike (agree : Service.AgreeOn party.cells a b) (count : ℕ) :
    party.Alike (party.turn (.sending count, a)) (party.turn (.sending count, b)) := by
  by_cases inside : count < party.chunkCount
  · rw [turn_sending inside, turn_sending inside]
    -- Both look at the same token.
    rw [show (party.world a).isStopped party.watch = (party.world b).isStopped party.watch from
      World.isStopped_congr rfl _]
    split
    · exact ⟨rfl, agree⟩
    · have own := party.touched_request count
      refine ⟨?_, agree.after own⟩
      rw [Stage.unnumbered_next, Stage.unnumbered_next, (agree.alike own).failure?_eq]
  · have ended : (party.outcome? (.sending count)).isSome = true := by simp [outcome?, inside]
    rw [turn_of_ended ended, turn_of_ended ended]
    exact ⟨rfl, agree⟩

/-- What a turn does depends on the client's cells alone. -/
theorem Alike.turn {x y : Stage × Service} (h : party.Alike x y) :
    party.Alike (party.turn x) (party.turn y) := by
  obtain ⟨stage, a⟩ := x
  obtain ⟨stage', b⟩ := y
  rcases Stage.unnumbered_eq_cases h.stage_eq with ⟨count, rfl, rfl⟩ | ⟨_, _, _, rfl, rfl, -⟩
  · exact turn_alike h.agree count
  · exact h

/-- What comes of a stage is the same, apart from request numbers. -/
theorem outcome?_unnumbered (party : Party) {stage stage' : Stage}
    (same : stage.unnumbered = stage'.unnumbered) :
    (party.outcome? stage).map Outcome.unnumbered =
      (party.outcome? stage').map Outcome.unnumbered := by
  rcases Stage.unnumbered_eq_cases same with ⟨count, rfl, rfl⟩ | ⟨f, g, k, rfl, rfl, alike⟩
  · rfl
  · simp [outcome?, Outcome.unnumbered, alike]

/-- What comes of a client's change set depends on the client's cells alone. -/
theorem execute_alike (agree : Service.AgreeOn party.cells a b) :
    (party.execute a).1.unnumbered = (party.execute b).1.unnumbered ∧
      Service.AgreeOn party.cells (party.execute a).2 (party.execute b).2 := by
  have turns (k : ℕ) : party.Alike (party.alone a k) (party.alone b k) := by
    induction k with
    | zero => exact ⟨rfl, agree⟩
    | succ k ih =>
      rw [alone_succ, alone_succ]
      exact ih.turn
  obtain ⟨same, agree'⟩ := turns party.chunkCount
  obtain ⟨outcome, service⟩ := party.alone_eq_execute a le_rfl
  obtain ⟨outcome', service'⟩ := party.alone_eq_execute b le_rfl
  have outcomes := party.outcome?_unnumbered same
  rw [outcome, outcome'] at outcomes
  rw [service, service'] at agree'
  exact ⟨Option.some.inj outcomes, agree'⟩

/-- The execution of a change set leaves alone what is not in the client's cells. -/
theorem agreeOn_execute {cells : Set Cell} (apart : ∀ cell ∈ party.cells, cell ∉ cells)
    (s : Service) : Service.AgreeOn cells (party.execute s).2 s := by
  have turns (k : ℕ) : Service.AgreeOn cells (party.alone s k).2 s := by
    induction k with
    | zero => exact .refl cells s
    | succ k ih =>
      rw [alone_succ]
      exact (agreeOn_turn apart _ _).trans ih
  rw [← (party.alone_eq_execute s le_rfl).2]
  exact turns party.chunkCount

end Party

/-! ## Several clients -/

namespace Service

/-- What is found in a store, if there is one. -/
def contents (s : Service) (storeId : String) : Option (TupleKey → Option (Option Condition)) :=
  (s.stores.find? storeId).map Table.find?

/-- Services that agree everywhere have stores with the same contents. -/
theorem AgreeOn.contents_eq {a b : Service} (h : AgreeOn Set.univ a b) :
    a.contents = b.contents := by
  funext storeId
  unfold contents
  rcases h.find?_cases storeId with ⟨missing, missing'⟩ | ⟨store, store', found, found', same⟩
  · rw [missing, missing']
  · rw [found, found']
    exact congrArg some (funext fun key => same key (Set.mem_univ _))

end Service

/-- The service and the clients. -/
structure Joint (ι : Type) where
  service : Service
  stages : ι → Stage

namespace Joint

variable {ι : Type}

section

variable (parties : ι → Party)

/-- No client has sent anything. -/
def start (s : Service) : Joint ι := ⟨s, fun who => (parties who).start⟩

/-- The service after clients executed their change sets one after the other. -/
def inOrder (s : Service) (order : List ι) : Service :=
  order.foldl (fun s who => ((parties who).execute s).2) s

variable [DecidableEq ι]

/-- A turn of one client. -/
def step (j : Joint ι) (who : ι) : Joint ι :=
  let moved := (parties who).turn (j.stages who, j.service)
  ⟨moved.2, Function.update j.stages who moved.1⟩

/-- Turns as a schedule says. -/
def run (s : Service) (schedule : List ι) : Joint ι :=
  schedule.foldl (step parties) (start parties s)

end

variable {parties : ι → Party} {order : List ι} {who : ι}

/-! ### One after the other -/

/-- What is in no client's cells stays as it was. -/
theorem agreeOn_inOrder {cells : Set Cell}
    (apart : ∀ who ∈ order, ∀ cell ∈ (parties who).cells, cell ∉ cells) (s : Service) :
    Service.AgreeOn cells (inOrder parties s order) s := by
  induction order generalizing s with
  | nil => exact .refl cells s
  | cons first rest ih =>
    obtain ⟨here, later⟩ := List.forall_mem_cons.mp apart
    exact (ih later _).trans (Party.agreeOn_execute here s)

/-- In its cells, a client that shares no key with the others leaves what it leaves alone. -/
theorem agreeOn_inOrder_execute (apart : ∀ other, other ≠ who → ∀ cell ∈ (parties other).cells,
      cell ∉ (parties who).cells) (once : order.Nodup) (member : who ∈ order) (s : Service) :
    Service.AgreeOn (parties who).cells (inOrder parties s order) ((parties who).execute s).2 := by
  -- Whoever comes before the client leaves its cells as they were, and so does whoever comes after.
  induction order generalizing s with
  | nil => simp at member
  | cons first rest ih =>
    obtain ⟨fresh, once⟩ := List.nodup_cons.mp once
    rcases List.mem_cons.mp member with rfl | later
    · have others : ∀ other ∈ rest, other ≠ who := by
        rintro other standing rfl
        exact fresh standing
      exact agreeOn_inOrder (fun other standing => apart other (others other standing)) _
    · have different : first ≠ who := by
        rintro rfl
        exact fresh later
      have before := Party.agreeOn_execute (apart first different) s
      exact (ih once later _).trans (Party.execute_alike before).2

/-! ### In turns -/

variable [DecidableEq ι]

theorem run_concat (s : Service) (schedule : List ι) (who : ι) :
    run parties s (schedule ++ [who]) = step parties (run parties s schedule) who := by
  simp [run, List.foldl_append]

theorem stages_step_of_ne {j : Joint ι} {other : ι} (different : who ≠ other) :
    (step parties j other).stages who = j.stages who := Function.update_of_ne different _ _

/-- A client that shares no key with the others does not notice them. -/
theorem run_alike (apart : ∀ other, other ≠ who → ∀ cell ∈ (parties other).cells,
      cell ∉ (parties who).cells) (s : Service) (schedule : List ι) :
    (parties who).Alike ((run parties s schedule).stages who, (run parties s schedule).service)
      ((parties who).alone s (schedule.count who)) := by
  -- The last turn is either the client's own or leaves the client's cells alone.
  induction schedule using List.reverseRecOn with
  | nil => exact ⟨rfl, .refl _ s⟩
  | append_singleton earlier last ih =>
    rw [run_concat, List.count_append, List.count_singleton]
    by_cases own : last = who
    · subst own
      rw [if_pos (beq_self_eq_true last), Party.alone_succ]
      simpa [step] using ih.turn
    · have left := Party.agreeOn_turn (apart last own) ((run parties s earlier).stages last)
        (run parties s earlier).service
      rw [if_neg (by simpa using own), Nat.add_zero]
      refine ⟨?_, left.trans ih.agree⟩
      rw [stages_step_of_ne (Ne.symm own)]
      exact ih.stage_eq

/-- What is in no client's cells stays as it was. -/
theorem agreeOn_run {cells : Set Cell}
    (apart : ∀ who, ∀ cell ∈ (parties who).cells, cell ∉ cells) (s : Service)
    (schedule : List ι) : Service.AgreeOn cells (run parties s schedule).service s := by
  induction schedule using List.reverseRecOn with
  | nil => exact .refl cells s
  | append_singleton earlier last ih =>
    rw [run_concat]
    exact (Party.agreeOn_turn (apart last) _ _).trans ih

variable (parties) in
/-- If no key is named by two clients, then each of them has the outcome that it has alone, and the
stores end up as if the clients had come one after the other, in whatever order. A client is done at
the latest when it has had as many turns as it has chunks. -/
theorem run_independent
    (apart : ∀ who other, other ≠ who → ∀ key ∈ (parties other).keys, key ∉ (parties who).keys)
    (s : Service) (schedule : List ι) :
    let j := run parties s schedule
    let outcome? (who : ι) := (parties who).outcome? (j.stages who)
    (∀ who, (parties who).changes.size ⌈/⌉ (parties who).limit.tuples ≤ schedule.count who →
      (outcome? who).isSome = true) ∧
    (∀ who outcome, outcome? who = some outcome →
      outcome.unnumbered = ((parties who).execute s).1.unnumbered) ∧
    ((∀ who, (outcome? who).isSome = true) → ∀ order : List ι, order.Nodup →
      (∀ who, who ∈ order) → j.service.contents = (inOrder parties s order).contents) := by
  intro j outcome?
  have apart (who : ι) : ∀ other, other ≠ who → ∀ cell ∈ (parties other).cells,
      cell ∉ (parties who).cells := fun other different cell => apart who other different cell.2
  have alike (who : ι) := run_alike (apart who) s schedule
  have outcomes (who : ι) : (outcome? who).map Outcome.unnumbered =
      ((parties who).outcome? ((parties who).alone s (schedule.count who)).1).map
        Outcome.unnumbered := (parties who).outcome?_unnumbered (alike who).stage_eq
  -- A client that has ended in company has ended alone, and then it has executed its change set.
  have executed (who : ι) (done : (outcome? who).isSome = true) :
      (outcome? who).map Outcome.unnumbered = some ((parties who).execute s).1.unnumbered ∧
        ((parties who).alone s (schedule.count who)).2 = ((parties who).execute s).2 := by
    have ended : ((parties who).outcome? ((parties who).alone s (schedule.count who)).1).isSome =
        true := by
      rw [← Option.isSome_map, ← outcomes who, Option.isSome_map]
      exact done
    obtain ⟨found, service⟩ := Party.execute_of_ended ended
    rw [outcomes who, found]
    exact ⟨rfl, service⟩
  refine ⟨fun who enough => ?_, fun who outcome done => ?_, fun done order once all => ?_⟩
  · rw [← ChangeSet.chunkCount_eq_ceilDiv] at enough
    obtain ⟨found, -⟩ := (parties who).alone_eq_execute s enough
    rw [← Option.isSome_map, outcomes who, found]
    rfl
  · obtain ⟨found, -⟩ := executed who (by simp [done])
    rw [done] at found
    exact Option.some.inj found
  · refine Service.AgreeOn.contents_eq (.glue fun cell => ?_)
    by_cases owned : ∃ who, cell ∈ (parties who).cells
    · obtain ⟨who, inside⟩ := owned
      have joint : Service.AgreeOn (parties who).cells j.service
          ((parties who).alone s (schedule.count who)).2 := (alike who).agree
      rw [(executed who (done who)).2] at joint
      exact ⟨(parties who).cells, inside,
        joint.trans (agreeOn_inOrder_execute (apart who) once (all who) s).symm⟩
    · -- Nobody touches the cell.
      have free : ∀ who, ∀ own ∈ (parties who).cells, own ∉ ({cell} : Set Cell) := by
        rintro who own inside rfl
        exact owned ⟨who, inside⟩
      exact ⟨{cell}, rfl, (agreeOn_run free s schedule).trans
        (agreeOn_inOrder (fun who _ => free who) s).symm⟩

/-- Two clients write to the same store in turns. The delete of one of them is refused. -/
theorem run_independent_pair :
    let call : CallMetadata := { storeId := some "s" }
    let other : ChangeSet := ⟨[ChangeSet.reader "carol"], [ChangeSet.reader "dave"],
      (ChangeSet.inputDefect?_eq_none_iff _ _).mp (by decide)⟩
    let first : Party := ⟨⟨1, by decide⟩, ChangeSet.handover, .idempotent, call, .token, false⟩
    let second : Party := ⟨⟨1, by decide⟩, other, .strict, call, .token, false⟩
    let parties (who : Bool) : Party := if who then first else second
    let s := Service.createStore {} "s"
    let j := run parties s [true, false, false, true]
    (second.execute s).1.isSuccess = false ∧
      (∃ outcome, first.outcome? (j.stages true) = some outcome ∧
        outcome.unnumbered = (first.execute s).1.unnumbered) ∧
      (∃ outcome, second.outcome? (j.stages false) = some outcome ∧
        outcome.unnumbered = (second.execute s).1.unnumbered) ∧
      j.service.contents = (second.execute (first.execute s).2).2.contents ∧
      j.service.contents = (first.execute (second.execute s).2).2.contents := by
  intro call other first second parties s j
  have apart : ∀ who other, other ≠ who → ∀ key ∈ (parties other).keys,
      key ∉ (parties who).keys := by decide
  obtain ⟨done, outcomes, contents⟩ := run_independent parties apart s [true, false, false, true]
  have ended : ∀ who, ((parties who).outcome? (j.stages who)).isSome = true :=
    fun who => done who (by cases who <;> decide)
  have outcome (who : Bool) : ∃ outcome, (parties who).outcome? (j.stages who) = some outcome ∧
      outcome.unnumbered = ((parties who).execute s).1.unnumbered := by
    obtain ⟨outcome, found⟩ := Option.isSome_iff_exists.mp (ended who)
    exact ⟨outcome, found, outcomes who outcome found⟩
  exact ⟨by decide +kernel, outcome true, outcome false,
    contents ended [true, false] (by decide) (by decide),
    contents ended [false, true] (by decide) (by decide)⟩

end Joint

end TupleClient
