import TupleClient.Connection
import TupleClient.Proofs.ClientTasks
import TupleClient.Proofs.KeyedStore
import TupleClient.Proofs.Payload
import TupleClient.Proofs.Repetition

/-!
# Which store a client reaches

The path of a write request is put together around the identifier of a store, and the service reads
the identifier off the path again. What stands around it is fixed, so no two identifiers share a
path, whatever they look like. But the service knows no path with a further part, and an identifier
with a slash makes one: a request for such a store is routed nowhere, although the client accepts
the identifier. Every other client reaches the store that it is configured for. None reaches any
other.

## Main definitions

* `Request.WritesTo` — a request is posted to the path of a store
* `Service.Reached` — the requests so far were addressed to one store, and the others are as before
* `Refusal.FindsStore`, `Reply.FindsStore` — what does not say that there is no such path or no such
  store

## Main results

* `writePath_injective` — no two stores share a path
* `Service.findsStore_of_verdict_error` — why a request that is routed to a store may be refused
* `Service.keeps_noting` — what one request keeps
* `Client.execute_of_slash`, `Client.run_routed` — which store the requests of a client reach
-/

namespace TupleClient

/-- The paths of two stores are different, for what stands around the identifiers is the same. -/
theorem writePath_injective : Function.Injective writePath := by
  intro a b same
  have parts : "/stores/".toList ++ a.toList ++ "/write".toList =
      "/stores/".toList ++ b.toList ++ "/write".toList := by
    simpa [writePath, String.toList_append] using congrArg String.toList same
  exact String.toList_inj.mp (List.append_cancel_left (List.append_cancel_right parts))

/-- A request is not refused for want of its path or of its store. -/
def Refusal.FindsStore (e : Refusal) : Prop :=
  e.code ≠ "undefined_endpoint" ∧ e.code ≠ "store_id_not_found"

/-- A reply does not say that there is no such path or no such store. -/
def Reply.FindsStore (reply : Reply) : Prop :=
  ∀ call failure, reply.result call = .error failure →
    failure.code ≠ some "undefined_endpoint" ∧ failure.code ≠ some "store_id_not_found"

/-- A request is posted to the path of the write requests to a store. -/
structure Request.WritesTo (r : Request) (storeId : String) : Prop where
  post : r.method = .post
  path : r.path = writePath storeId

/-- A request to a store whose identifier has no slash is routed to it. -/
theorem Request.WritesTo.route? {r : Request} {storeId : String} (h : r.WritesTo storeId)
    (named : storeId ≠ "") (noSlash : '/' ∉ storeId.toList) : Service.route? r = some storeId :=
  Service.route?_eq_some_iff.mpr ⟨h.post, h.path, named, noSlash⟩

namespace Service

variable {s : Service} {r : Request} {storeId : String} {limit : ℕ} {stores : Table String Store}

/-! ## Paths -/

/-- The path of a store leads to this store or nowhere. -/
theorem route?_of_path {other : String} (path : r.path = writePath storeId)
    (route : route? r = some other) : other = storeId := by
  obtain ⟨-, read, -⟩ := route?_eq_some_iff.mp route
  exact writePath_injective (read.symm.trans path)

/-- The path of a store whose identifier has a slash leads nowhere. -/
theorem route?_eq_none_of_slash (path : r.path = writePath storeId)
    (slash : '/' ∈ storeId.toList) : route? r = none := by
  rw [Option.eq_none_iff_forall_ne_some]
  intro other route
  obtain ⟨-, -, -, noSlash⟩ := route?_eq_some_iff.mp route
  exact noSlash (route?_of_path path route ▸ slash)

/-! ## One request -/

theorem findsStore_of_readBody {e : Refusal} (unread : readBody r = .error e) : e.FindsStore := by
  unfold readBody at unread
  split at unread
  · obtain rfl := Except.error.inj unread
    simp [Refusal.FindsStore, Refusal.code]
  · split at unread
    · simp at unread
    · obtain rfl := Except.error.inj unread
      simp [Refusal.FindsStore, Refusal.code]

theorem findsStore_of_bodyRefusal? {e : Refusal} {b : WriteBody}
    (unfit : bodyRefusal? limit b = some e) : e.FindsStore := by
  unfold bodyRefusal? at unfit
  split_ifs at unfit
  · obtain rfl := Option.some.inj unfit
    simp [Refusal.FindsStore, Refusal.code]
  · obtain rfl := Option.some.inj unfit
    simp [Refusal.FindsStore, Refusal.code]
  · obtain ⟨key, -, rfl⟩ := Option.map_eq_some_iff.mp unfit
    simp [Refusal.FindsStore, Refusal.code]

theorem findsStore_of_refusal? {e : Refusal} {b : WriteBody} {store : Store}
    (refused : store.refusal? b = some e) : e.FindsStore := by
  rw [Store.refusal?_eq_findSome?] at refused
  obtain ⟨op, -, conflict⟩ := List.exists_of_findSome?_eq_some refused
  simp [Refusal.FindsStore, (Store.status_of_conflict? conflict).2]

/-- A request that is routed to a store that is there is refused for its body or for a conflict. -/
theorem findsStore_of_verdict_error {e : Refusal} {store : Store} (route : route? r = some storeId)
    (found : stores.find? storeId = some store) (refused : verdict limit stores r = .error e) :
    e.FindsStore := by
  cases read : readBody r with
  | error unread =>
    obtain rfl : unread = e := by simpa [verdict, route, read] using refused
    exact findsStore_of_readBody read
  | ok b =>
    simp only [verdict_eq route read, found] at refused
    cases misfit : bodyRefusal? limit b with
    | some unfit =>
      obtain rfl : unfit = e := by simpa [misfit] using refused
      exact findsStore_of_bodyRefusal? misfit
    | none =>
      cases conflict : store.refusal? b with
      | none => simp [misfit, conflict] at refused
      | some clash =>
        obtain rfl : clash = e := by simpa [misfit, conflict] using refused
        exact findsStore_of_refusal? conflict

/-- A request changes no store but the one that it is routed to. -/
theorem find?_after_of_route?_ne {other : String} (elsewhere : route? r ≠ some other) :
    (s.after r).stores.find? other = s.stores.find? other := by
  rcases after_cases s r with ⟨-, kept⟩ | ⟨id, b, store, route, -, -, -, -, moved⟩
  · rw [kept]
  · have different : other ≠ id := fun same => elsewhere (same ▸ route)
    rw [moved, Table.find?_insert, if_neg different]

/-- A request that is routed nowhere changes no store at all. -/
theorem stores_after_of_route?_eq_none (nowhere : route? r = none) :
    (s.after r).stores = s.stores := by
  rcases after_cases s r with ⟨-, kept⟩ | ⟨id, b, store, route, -⟩
  · rw [kept]
  · simp [nowhere] at route

/-- The response to a request that is routed to a store that is there does not say otherwise. -/
theorem findsStore_handle (route : route? r = some storeId) (present : s.hasStore storeId = true) :
    (Reply.response (s.handle r).1).FindsStore := by
  intro call failure rejected
  obtain ⟨store, found⟩ := Option.isSome_iff_exists.mp present
  cases judged : verdict s.limit s.stores r with
  | ok stores =>
    obtain ⟨headers, response, -⟩ := handle_of_verdict_ok judged
    simp [response, Reply.result, Response.isSuccess] at rejected
  | error e =>
    obtain ⟨headers, response, -⟩ := handle_of_verdict_error judged
    have finds := findsStore_of_verdict_error route found judged
    rw [response, Reply.result, isSuccess_refuse] at rejected
    obtain rfl : Failure.ofResponse (some e.status) e.body (some headers) call = failure := by
      simpa [refuse] using rejected
    rw [Failure.code_ofResponse_refusal]
    exact finds.imp (mt Option.some.inj) (mt Option.some.inj)

/-- The requests so far were addressed to one store, which is there, and all others are as before.
If its identifier has a slash, it is as before itself. -/
structure Reached (before : Service) (storeId : String) (far : Service × List Request) : Prop where
  present : far.1.hasStore storeId = true
  others : ∀ other ≠ storeId, far.1.stores.find? other = before.stores.find? other
  idle : '/' ∈ storeId.toList → far.1.stores = before.stores
  addressed : ∀ r ∈ far.2, r.WritesTo storeId

/-- What a further request to the same store keeps. -/
theorem keeps_noting (before : Service) (named : storeId ≠ "") :
    link.noting.Keeps (·.WritesTo storeId) (Reached before storeId)
      (fun reply => '/' ∉ storeId.toList → reply.FindsStore) where
  after watch r w sent reached := by
    -- The request is routed to the same store or nowhere, so nothing else changes.
    refine ⟨?_, fun other different => ?_, fun slash => ?_, fun r' member => ?_⟩
    · exact (hasStore_after w.far.1 r storeId).trans reached.present
    · have elsewhere : route? r ≠ some other := fun route =>
        different (route?_of_path sent.path route)
      exact (find?_after_of_route?_ne elsewhere).trans (reached.others other different)
    · have nowhere := route?_eq_none_of_slash sent.path slash
      exact (stores_after_of_route?_eq_none nowhere).trans (reached.idle slash)
    · rcases List.mem_append.mp member with earlier | latest
      · exact reached.addressed r' earlier
      · rwa [List.mem_singleton.mp latest]
  answer watch r w reply sent reached answered noSlash := by
    obtain rfl : .response (w.far.1.handle r).1 = reply := Flight.answered.inj answered
    exact findsStore_handle (sent.route? named noSlash) reached.present

end Service

/-! ## Whole tasks -/

namespace Client

/-- A client that is configured for a store whose identifier has a slash is accepted, but the
service knows no path for its requests: whatever it is to write or to delete, the first request is
refused, and no store changes. -/
theorem execute_of_slash (c : Client) (slash : '/' ∈ c.storeId.toList) {cs : ChangeSet}
    (nonempty : cs.size ≠ 0) (policy : Option ConflictPolicy) (operation : String) (watch : Watch)
    (w : World Service) (running : w.isStopped watch = false) :
    let result := c.execute Service.link cs policy operation watch w
    (∃ failure, result.1 = .failed failure 0 ∧ failure.status = some 404 ∧
        failure.code = some "undefined_endpoint") ∧
      result.2.far.stores = w.far.stores := by
  intro result
  let policy := policy.getD c.settings.defaultPolicy
  let r := Transaction.request ⟨c.storeId, policy, c.callMetadata operation, watch⟩
    (cs.chunkAt c.limit 0)
  have nowhere : Service.route? r = none := Service.route?_eq_none_of_slash rfl slash
  have refused : Service.verdict w.far.limit w.far.stores r =
      .error (.noRoute r.method.name r.path) := by
    rw [Service.verdict, nowhere]
  obtain ⟨⟨headers, failed⟩, left⟩ := Transaction.execute_of_verdict_error w
    (c.storeId?_callMetadata operation) running nonempty refused
  exact ⟨⟨_, failed, rfl, Failure.code_ofResponse_refusal _ _ _⟩,
    (congrArg Service.stores left).trans rfl⟩

/-- A store whose identifier has a slash is not reached by its own client, although the settings are
accepted and there is such a store. -/
theorem execute_of_slash_handover :
    let c := ofStore "a/b" (by decide +kernel)
    let s := Service.createStore {} "a/b"
    ofSettings c.settings = .ok c ∧ s.hasStore c.storeId = true ∧
      ∃ failure, (c.run Service.link (.write ChangeSet.handover none) ⟨s, false, []⟩).1 =
        .failed failure 0 ∧ failure.code = some "undefined_endpoint" := by
  intro c s
  have slash : '/' ∈ c.storeId.toList := by decide +kernel
  have nonempty : ChangeSet.handover.size ≠ 0 := by decide
  obtain ⟨⟨failure, failed, -, code⟩, -⟩ :=
    c.execute_of_slash slash nonempty none writeOperation .nothing ⟨s, false, []⟩ rfl
  exact ⟨ofSettings_eq_ok_iff.mpr rfl, by decide +kernel, failure, failed, code⟩

/-- A client reaches no store but the one that it is configured for. All requests of a task have the
path of this store, which no other store shares, so none of them is routed to another one, and no
other one changes.

If the identifier of the store has no slash, all requests are routed to it, and no failure says that
there is no such path or no such store. Otherwise they are routed nowhere, and no store changes. -/
theorem run_routed (c : Client) (s : Service) (present : s.hasStore c.storeId = true)
    (p : RetryPolicy) (chance : ℕ → RetryPolicy.Chance) (task : ClientTask) (cancelled : Bool)
    (log : List Trace) :
    let result := c.run (p.link chance Service.link.noting) task ⟨(s, []), cancelled, log⟩
    Function.Injective writePath ∧
      (∀ r ∈ result.2.far.2, r.path = writePath c.storeId ∧
        ∀ other, Service.route? r = some other → other = c.storeId) ∧
      (∀ other ≠ c.storeId, result.2.far.1.stores.find? other = s.stores.find? other) ∧
      result.2.far.1.hasStore c.storeId = true ∧
      ('/' ∉ c.storeId.toList →
        (∀ r ∈ result.2.far.2, Service.route? r = some c.storeId) ∧
        ∀ failure i, result.1 = .failed failure i →
          failure.code ≠ some "undefined_endpoint" ∧ failure.code ≠ some "store_id_not_found") ∧
      ('/' ∈ c.storeId.toList →
        (∀ r ∈ result.2.far.2, Service.route? r = none) ∧
          result.2.far.1.stores = s.stores) := by
  intro result
  have named : c.storeId ≠ "" := by
    intro empty
    have notBlank : Text.isBlank c.storeId = false := c.valid.store
    rw [empty] at notBlank
    exact absurd notBlank (by decide)
  have sent : ∀ t : Transaction, t.storeId = c.storeId → ∀ chunk,
      (t.request chunk).WritesTo c.storeId :=
    fun t same chunk => ⟨rfl, congrArg writePath same⟩
  obtain ⟨reached, cause⟩ := c.run_keeps ((Service.keeps_noting s named).retrying p chance) sent
    task (w := ⟨(s, []), cancelled, log⟩) ⟨present, fun _ _ => rfl, fun _ => rfl, by simp⟩
  refine ⟨writePath_injective, fun r member => ?_, reached.others, reached.present,
    fun noSlash => ⟨fun r member => ?_, fun failure i failed => ?_⟩,
    fun slash => ⟨fun r member => ?_, reached.idle slash⟩⟩
  · have path := (reached.addressed r member).path
    exact ⟨path, fun other => Service.route?_of_path path⟩
  · exact (reached.addressed r member).route? named noSlash
  · obtain ⟨operation, ⟨message, rfl⟩ | rfl | ⟨reply, finds, rejected⟩⟩ := cause failure i failed
    · simp [Failure.ofInput, Failure.invalidInputCode]
    · simp [Failure.cancellation]
    · exact finds noSlash _ failure rejected
  · exact Service.route?_eq_none_of_slash (reached.addressed r member).path slash

/-- The identifier of a store may look like parts of a path and have spaces around it. -/
theorem run_routed_reader :
    let c := ofStore " stores write " (by decide +kernel)
    let result := c.run (RetryPolicy.link {} (fun _ => 0) Service.link.noting)
      (.writeTuples [ChangeSet.reader "anne"] none)
      ⟨(Service.createStore {} " stores write ", []), false, []⟩
    (∀ r ∈ result.2.far.2, Service.route? r = some " stores write ") ∧
      result.2.far.2.length = 1 ∧ result.1 = .success ⟨1, 1, 0⟩ := by
  intro c result
  obtain ⟨-, -, -, -, withoutSlash, -⟩ := c.run_routed (Service.createStore {} " stores write ")
    (by decide +kernel) {} (fun _ => 0) (.writeTuples [ChangeSet.reader "anne"] none) false []
  obtain ⟨routed, -⟩ := withoutSlash (by decide +kernel)
  exact ⟨routed, by decide +kernel, by decide +kernel⟩

end Client

end TupleClient
