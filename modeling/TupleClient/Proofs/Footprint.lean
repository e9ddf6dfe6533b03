import Mathlib.Data.List.Basic
import Mathlib.Data.Set.Basic
import TupleClient.Proofs.ServiceEffect

/-!
# What a request touches

A write request is about some keys of one store. It looks at nothing else, apart from whether there
is such a store, and it changes nothing else. So two services that agree on what a request touches
give it the same response and agree afterwards, and a service agrees with itself before a request on
everything that the request does not touch.

## Main definitions

* `Cell`, `Service.conditionAt?` — a place for a tuple, and what stands there
* `Service.touched` — the cells that a request is about
* `Service.after` — the service after a request
* `Service.AgreeOn` — two services cannot be told apart by looking at some cells
* `Response.Alike` — two responses differ at most in the number of the request

## Main results

* `Service.agreeOn_after` — a request changes only the cells that it touches
* `Service.AgreeOn.after`, `Service.AgreeOn.alike` — what a request does and what it is answered
  depend only on the cells that it touches
* `Service.alike_replay`, `Service.agreeOn_replay` — a request that may be replayed is answered as
  before and changes nothing more
-/

namespace TupleClient

/-! ## Stores -/

namespace Store

variable {s s' : Store} {b : WriteBody} {key : TupleKey}

/-- A body is judged by what stands under its own keys. -/
theorem refusal?_congr (same : ∀ key ∈ b.keys, s.find? key = s'.find? key) :
    s.refusal? b = s'.refusal? b := by
  rw [refusal?_eq_findSome?, refusal?_eq_findSome?, ← List.head?_filterMap, ← List.head?_filterMap]
  -- Both are the first conflict in a list, and the conflicts are the same one by one.
  congr 1
  refine List.filterMap_congr fun op member => conflict?_congr (same op.key ?_)
  rw [WriteBody.keys_eq]
  exact List.mem_map_of_mem member

theorem find?_apply_of_notMem (distinct : b.keys.Nodup) (other : key ∉ b.keys) :
    (s.apply b).find? key = s.find? key := by
  rw [apply_eq_performAll distinct]
  exact find?_performAll_of_notMem (b.keys_eq ▸ other)

/-- What a body leaves under its own keys depends on what stood there. -/
theorem find?_apply_congr (distinct : b.keys.Nodup) (member : key ∈ b.keys)
    (same : s.find? key = s'.find? key) : (s.apply b).find? key = (s'.apply b).find? key := by
  rw [b.keys_eq] at distinct member
  obtain ⟨op, performed, rfl⟩ := List.mem_map.mp member
  rw [apply_eq_performAll (b.keys_eq ▸ distinct), apply_eq_performAll (b.keys_eq ▸ distinct),
    find?_performAll distinct performed, find?_performAll distinct performed, same]

end Store

/-! ## Responses -/

/-- Two responses say the same, apart from the number of the request. -/
structure Response.Alike (a b : Response) : Prop where
  status_eq : a.status = b.status
  body_eq : a.body = b.body
  headers_eq : ∀ name, Text.lower name ≠ "fga-request-id" →
    a.headers.get? name = b.headers.get? name

theorem Response.Alike.trans {a b c : Response} (h : a.Alike b) (k : b.Alike c) : a.Alike c :=
  ⟨h.status_eq.trans k.status_eq, h.body_eq.trans k.body_eq,
    fun name other => (h.headers_eq name other).trans (k.headers_eq name other)⟩

/-! ## Cells -/

/-- A place for a tuple: a store and a key in it. -/
abbrev Cell := String × TupleKey

namespace Service

/-- The condition of the tuple in a cell, if there is one. -/
def conditionAt? (s : Service) (cell : Cell) : Option (Option Condition) :=
  (s.stores.find? cell.1).bind fun store => store.find? cell.2

/-- Whether there is a store. -/
def hasStore (s : Service) (storeId : String) : Bool := (s.stores.find? storeId).isSome

/-- The cells that a request is about. -/
def touched (r : Request) : List Cell :=
  match route? r, readBody r with
  | some storeId, .ok b => b.keys.map fun key => (storeId, key)
  | _, _ => []

/-- The service after a request. -/
def after (s : Service) (r : Request) : Service := (s.handle r).2.1

/-- Two services have the same stores and the same limit, and the same stands in some cells. -/
structure AgreeOn (cells : Set Cell) (a b : Service) : Prop where
  limit_eq : a.limit = b.limit
  hasStore_eq : ∀ storeId, a.hasStore storeId = b.hasStore storeId
  condition_eq : ∀ cell ∈ cells, a.conditionAt? cell = b.conditionAt? cell

variable {a b c s : Service} {cells : Set Cell} {r : Request} {storeId : String} {body : WriteBody}

namespace AgreeOn

theorem refl (cells : Set Cell) (s : Service) : AgreeOn cells s s :=
  ⟨rfl, fun _ => rfl, fun _ _ => rfl⟩

theorem of_stores_eq (stores : a.stores = b.stores) (limit : a.limit = b.limit) :
    AgreeOn cells a b :=
  ⟨limit, fun _ => by rw [hasStore, hasStore, stores],
    fun _ _ => by rw [conditionAt?, conditionAt?, stores]⟩

theorem symm (h : AgreeOn cells a b) : AgreeOn cells b a :=
  ⟨h.limit_eq.symm, fun id => (h.hasStore_eq id).symm,
    fun cell inside => (h.condition_eq cell inside).symm⟩

theorem trans (h : AgreeOn cells a b) (k : AgreeOn cells b c) : AgreeOn cells a c :=
  ⟨h.limit_eq.trans k.limit_eq, fun id => (h.hasStore_eq id).trans (k.hasStore_eq id),
    fun cell inside => (h.condition_eq cell inside).trans (k.condition_eq cell inside)⟩

/-- What agrees piece by piece agrees everywhere. -/
theorem glue (h : ∀ cell, ∃ cells : Set Cell, cell ∈ cells ∧ AgreeOn cells a b) :
    AgreeOn Set.univ a b := by
  obtain ⟨_, -, some⟩ := h ("", default)
  refine ⟨some.limit_eq, some.hasStore_eq, fun cell _ => ?_⟩
  obtain ⟨_, inside, here⟩ := h cell
  exact here.condition_eq cell inside

/-- Either both services lack a store, or both have it and it looks the same. -/
theorem find?_cases (h : AgreeOn cells a b) (storeId : String) :
    (a.stores.find? storeId = none ∧ b.stores.find? storeId = none) ∨
      ∃ store store' : Store, a.stores.find? storeId = some store ∧
        b.stores.find? storeId = some store' ∧
        ∀ key, (storeId, key) ∈ cells → store.find? key = store'.find? key := by
  have stores := h.hasStore_eq storeId
  simp only [hasStore] at stores
  cases found : a.stores.find? storeId with
  | none => exact .inl ⟨rfl, by simpa [found] using stores.symm⟩
  | some store =>
    obtain ⟨store', found'⟩ : ∃ store', b.stores.find? storeId = some store' := by
      rw [← Option.isSome_iff_exists, ← stores, found]
      rfl
    refine .inr ⟨store, store', rfl, found', fun key inside => ?_⟩
    simpa [conditionAt?, found, found'] using h.condition_eq _ inside

end AgreeOn

theorem touched_eq (route : route? r = some storeId) (read : readBody r = .ok body) :
    touched r = body.keys.map fun key => (storeId, key) := by
  simp [touched, route, read]

theorem mem_touched_iff {cell : Cell} :
    cell ∈ touched r ↔ ∃ b, route? r = some cell.1 ∧ readBody r = .ok b ∧ cell.2 ∈ b.keys := by
  obtain ⟨id, key⟩ := cell
  cases route : route? r with
  | none => simp [touched, route]
  | some storeId =>
    cases read : readBody r with
    | error e => simp [touched, route, read]
    | ok b =>
      simp only [touched_eq route read, List.mem_map, Prod.mk.injEq]
      constructor
      · rintro ⟨_, member, rfl, rfl⟩
        exact ⟨b, rfl, rfl, member⟩
      · rintro ⟨_, same, decoded, member⟩
        obtain rfl := Except.ok.inj decoded
        exact ⟨key, member, Option.some.inj same, rfl⟩

/-! ## What a request changes -/

variable (s r) in
/-- A request that is refused changes nothing. One that is accepted changes one store. -/
theorem after_cases :
    ((∃ e, verdict s.limit s.stores r = .error e) ∧
        s.after r = { s with calls := s.calls + 1 }) ∨
      ∃ storeId b store, route? r = some storeId ∧ readBody r = .ok b ∧ b.keys.Nodup ∧
        s.stores.find? storeId = some store ∧
        verdict s.limit s.stores r = .ok (s.stores.insert storeId (store.apply b)) ∧
        s.after r = { s with
          stores := s.stores.insert storeId (store.apply b), calls := s.calls + 1 } := by
  cases judged : verdict s.limit s.stores r with
  | error e =>
    obtain ⟨-, -, after⟩ := handle_of_verdict_error judged
    exact .inl ⟨⟨e, rfl⟩, after⟩
  | ok stores =>
    obtain ⟨-, -, after⟩ := handle_of_verdict_ok judged
    obtain ⟨storeId, b, store, route, read, fits, found, -, rfl⟩ := verdict_eq_ok_iff.mp judged
    exact .inr ⟨storeId, b, store, route, read, nodup_of_bodyRefusal?_eq_none fits, found, rfl,
      after⟩

theorem hasStore_after (s : Service) (r : Request) (storeId : String) :
    (s.after r).hasStore storeId = s.hasStore storeId := by
  rcases after_cases s r with ⟨-, kept⟩ | ⟨id, b, store, -, -, -, found, -, moved⟩
  · rw [kept, hasStore, hasStore]
  · rw [moved, hasStore, hasStore, Table.find?_insert]
    by_cases same : storeId = id
    · simp [same, found]
    · rw [if_neg same]

@[simp] theorem limit_after (s : Service) (r : Request) : (s.after r).limit = s.limit := by
  rcases after_cases s r with ⟨-, kept⟩ | ⟨_, _, _, -, -, -, -, -, moved⟩
  · rw [kept]
  · rw [moved]

/-- A request that is not answered with success changes no store. -/
theorem stores_after_of_status_ne (failed : (s.handle r).1.status ≠ 200) :
    (s.after r).stores = s.stores := by
  cases judged : verdict s.limit s.stores r with
  | ok stores =>
    obtain ⟨headers, response, -⟩ := handle_of_verdict_ok judged
    exact absurd (by rw [response]) failed
  | error e =>
    obtain ⟨-, -, kept⟩ := handle_of_verdict_error judged
    rw [after, kept]

theorem conditionAt?_after_of_notMem {cell : Cell} (untouched : cell ∉ touched r) :
    (s.after r).conditionAt? cell = s.conditionAt? cell := by
  rcases after_cases s r with ⟨-, kept⟩ | ⟨id, b, store, route, read, distinct, found, -, moved⟩
  · rw [kept, conditionAt?, conditionAt?]
  · rw [moved, conditionAt?, conditionAt?, Table.find?_insert]
    by_cases same : cell.1 = id
    · have other : cell.2 ∉ b.keys := fun member =>
        untouched (mem_touched_iff.mpr ⟨b, same ▸ route, read, member⟩)
      simp [same, found, Store.find?_apply_of_notMem distinct other]
    · rw [if_neg same]

/-- A request changes nothing in the cells that it does not touch. -/
theorem agreeOn_after (s : Service) (untouched : ∀ cell ∈ touched r, cell ∉ cells) :
    AgreeOn cells (s.after r) s :=
  ⟨limit_after s r, hasStore_after s r,
    fun cell inside => conditionAt?_after_of_notMem fun member => untouched cell member inside⟩

/-! ## What a request depends on -/

/-- Services that agree on what a request touches judge it alike. -/
theorem AgreeOn.verdict_cases (h : AgreeOn cells a b) (inside : ∀ cell ∈ touched r, cell ∈ cells) :
    (∃ e, verdict a.limit a.stores r = .error e ∧ verdict b.limit b.stores r = .error e) ∨
      ∃ storeId body, ∃ store store' : Store, route? r = some storeId ∧ readBody r = .ok body ∧
        body.keys.Nodup ∧ (∀ key ∈ body.keys, store.find? key = store'.find? key) ∧
        verdict a.limit a.stores r = .ok (a.stores.insert storeId (store.apply body)) ∧
        verdict b.limit b.stores r = .ok (b.stores.insert storeId (store'.apply body)) := by
  cases route : route? r with
  | none => exact .inl ⟨.noRoute r.method.name r.path, by simp [verdict, route]⟩
  | some storeId =>
    cases read : readBody r with
    | error e => exact .inl ⟨e, by simp [verdict, route, read]⟩
    | ok body =>
      rw [verdict_eq route read, verdict_eq route read, ← h.limit_eq]
      cases fits : bodyRefusal? a.limit body with
      | some e => exact .inl ⟨e, rfl, rfl⟩
      | none =>
        -- What is left to judge is the store, which either both lack or both have.
        rcases h.find?_cases storeId with ⟨missing, missing'⟩ | ⟨store, store', found, found', same⟩
        · exact .inl ⟨.unknownStore storeId, by rw [missing], by rw [missing']⟩
        · have same : ∀ key ∈ body.keys, store.find? key = store'.find? key := by
            intro key member
            exact same key (inside _ (mem_touched_iff.mpr ⟨body, route, read, member⟩))
          rw [found, found']
          dsimp only
          rw [← Store.refusal?_congr same]
          cases store.refusal? body with
          | some e => exact .inl ⟨e, rfl, rfl⟩
          | none =>
            exact .inr ⟨storeId, body, store, store', rfl, rfl,
              nodup_of_bodyRefusal?_eq_none fits, same, rfl, rfl⟩

/-- Services that agree on what a request touches still agree after it. -/
theorem AgreeOn.after (h : AgreeOn cells a b) (inside : ∀ cell ∈ touched r, cell ∈ cells) :
    AgreeOn cells (a.after r) (b.after r) := by
  refine ⟨by simp [h.limit_eq], fun id => by simp [hasStore_after, h.hasStore_eq], ?_⟩
  intro cell member
  by_cases touches : cell ∈ touched r
  · -- Either neither service changes, or both apply the same body where they agreed before.
    rcases h.verdict_cases inside with
      ⟨e, refused, refused'⟩ | ⟨id, body, store, store', route, read, distinct, same, ok, ok'⟩
    · obtain ⟨-, -, kept⟩ := handle_of_verdict_error refused
      obtain ⟨-, -, kept'⟩ := handle_of_verdict_error refused'
      rw [Service.after, Service.after, kept, kept']
      exact h.condition_eq cell member
    · obtain ⟨-, -, moved⟩ := handle_of_verdict_ok ok
      obtain ⟨-, -, moved'⟩ := handle_of_verdict_ok ok'
      rw [touched_eq route read, List.mem_map] at touches
      obtain ⟨key, own, rfl⟩ := touches
      rw [Service.after, Service.after, moved, moved']
      have alike := Store.find?_apply_congr distinct own (same key own)
      simpa [conditionAt?, Table.find?_insert] using alike
  · rw [conditionAt?_after_of_notMem touches, conditionAt?_after_of_notMem touches]
    exact h.condition_eq cell member

/-- Apart from the number of the request, the headers of a response do not depend on the service. -/
theorem get?_headers_handle (a b : Service) (r : Request) {name : String}
    (other : Text.lower name ≠ "fga-request-id") :
    (a.handle r).1.headers.get? name = (b.handle r).1.headers.get? name := by
  have number : Text.lower "fga-request-id" = "fga-request-id" := by decide +kernel
  have same (a b : Service) (storeId : String) (body : WriteBody) :
      (a.responseHeaders storeId body).get? name = (b.responseHeaders storeId body).get? name := by
    unfold responseHeaders
    cases body.authorizationModelId <;> simp [Headers.get?_set, number, other]
  unfold handle
  cases route? r with
  | none => rfl
  | some storeId =>
    cases readBody r with
    | error e => rfl
    | ok body =>
      dsimp only
      -- Whatever each of the two decides, its response carries the headers of the same body.
      split <;> split <;> exact same _ _ _ _

/-- Services that agree on what a request touches give it the same response. -/
theorem AgreeOn.alike (h : AgreeOn cells a b) (inside : ∀ cell ∈ touched r, cell ∈ cells) :
    (a.handle r).1.Alike (b.handle r).1 := by
  -- The headers are the same whatever is decided.
  suffices same : (a.handle r).1.status = (b.handle r).1.status ∧
      (a.handle r).1.body = (b.handle r).1.body from
    ⟨same.1, same.2, fun _ => get?_headers_handle a b r⟩
  rcases h.verdict_cases inside with
    ⟨e, refused, refused'⟩ | ⟨_, _, _, _, -, -, -, -, ok, ok'⟩
  · obtain ⟨_, response, -⟩ := handle_of_verdict_error refused
    obtain ⟨_, response', -⟩ := handle_of_verdict_error refused'
    rw [response, response']
    exact ⟨rfl, rfl⟩
  · obtain ⟨_, response, -⟩ := handle_of_verdict_ok ok
    obtain ⟨_, response', -⟩ := handle_of_verdict_ok ok'
    rw [response, response']
    exact ⟨rfl, rfl⟩

/-! ## Replays -/

/-- A request that is refused is refused again. -/
theorem verdict_after_of_error {e : Refusal} (refused : verdict s.limit s.stores r = .error e) :
    verdict (s.after r).limit (s.after r).stores r = .error e := by
  obtain ⟨-, -, kept⟩ := handle_of_verdict_error refused
  rw [Service.after, kept]
  exact refused

/-- A request that is accepted and may be replayed is accepted again, without an effect. -/
theorem verdict_after_of_ok {stores : Table String Store} (safe : r.isReplaySafe = true)
    (accepted : verdict s.limit s.stores r = .ok stores) :
    verdict (s.after r).limit (s.after r).stores r = .ok (s.after r).stores := by
  obtain ⟨-, -, moved⟩ := handle_of_verdict_ok accepted
  rw [Service.after, moved]
  exact verdict_replay safe accepted

/-- A request that may be replayed gets the same response again. -/
theorem alike_replay (s : Service) (safe : r.isReplaySafe = true) :
    ((s.after r).handle r).1.Alike (s.handle r).1 := by
  suffices same : ((s.after r).handle r).1.status = (s.handle r).1.status ∧
      ((s.after r).handle r).1.body = (s.handle r).1.body from
    ⟨same.1, same.2, fun _ => get?_headers_handle _ _ r⟩
  cases judged : verdict s.limit s.stores r with
  | error e =>
    obtain ⟨_, response, -⟩ := handle_of_verdict_error judged
    obtain ⟨_, response', -⟩ := handle_of_verdict_error (verdict_after_of_error judged)
    rw [response, response']
    exact ⟨rfl, rfl⟩
  | ok stores =>
    obtain ⟨_, response, -⟩ := handle_of_verdict_ok judged
    obtain ⟨_, response', -⟩ := handle_of_verdict_ok (verdict_after_of_ok safe judged)
    rw [response, response']
    exact ⟨rfl, rfl⟩

/-- A request that may be replayed changes nothing when it comes again. -/
theorem agreeOn_replay (s : Service) (safe : r.isReplaySafe = true) :
    AgreeOn cells ((s.after r).after r) (s.after r) := by
  refine .of_stores_eq ?_ (limit_after _ r)
  cases judged : verdict s.limit s.stores r with
  | error e =>
    obtain ⟨-, -, kept⟩ := handle_of_verdict_error (verdict_after_of_error judged)
    rw [Service.after, kept]
  | ok stores =>
    obtain ⟨-, -, moved⟩ := handle_of_verdict_ok (verdict_after_of_ok safe judged)
    rw [Service.after, moved]

end Service

end TupleClient
