import TupleClient.Proofs.Footprint

/-!
# The service as an atomic keyed store

A request is answered with success exactly if nothing is wrong with it, and then its store loses the
deleted keys and gains the written tuples whose keys were absent. Any other answer leaves all stores
as they were. Whatever was asked of a service before, a store holds at most one tuple for each key.

## Main definitions

* `Service.Command`, `Service.history` — what a service can be asked to do, and the service after a
  sequence of such commands
* `Service.Accepts`, `Service.Answers` — nothing is wrong with a request, and what becomes of one
* `Service.Listed` — a listing has exactly what is in the store
* `Store.Changed` — what a body that is accepted does to its store
* `Json.LeavesOut` — a field is left out of the data of a record

## Main results

* `Service.route?_eq_some_iff` — the requests that are addressed to a store
* `Service.status_handle_eq_iff`, `Service.Accepts.changed` — which requests succeed, and what they
  do
* `Service.distinct_history`, `Service.Distinct.listed` — one tuple for each key, at all times
* `Service.history_keyed` — all this after any sequence of commands
-/

namespace TupleClient

/-! ## Tables whose keys come once -/

namespace Table

variable {κ α : Type}

/-- There is at most one entry for each key. -/
def Distinct (t : Table κ α) : Prop := (t.entries.map Prod.fst).Nodup

theorem distinct_empty : (empty : Table κ α).Distinct := List.nodup_nil

variable [DecidableEq κ] {t : Table κ α} {key : κ} {value : α} {entries : List (κ × α)}

theorem map_fst_put :
    (put key value entries).map Prod.fst =
      if key ∈ entries.map Prod.fst then entries.map Prod.fst
      else entries.map Prod.fst ++ [key] := by
  induction entries with
  | nil => rfl
  | cons entry rest ih =>
    obtain ⟨k, v⟩ := entry
    by_cases here : k = key
    · simp [put, here]
    · have other : key ≠ k := Ne.symm here
      rw [put, if_neg here, List.map_cons, ih, List.map_cons]
      by_cases later : key ∈ rest.map Prod.fst
      · rw [if_pos later, if_pos (List.mem_cons_of_mem k later)]
      · rw [if_neg later, if_neg (List.not_mem_cons_of_ne_of_not_mem other later)]
        rfl

theorem Distinct.insert (h : t.Distinct) (key : κ) (value : α) : (t.insert key value).Distinct := by
  rw [Distinct, Table.insert, map_fst_put]
  by_cases present : key ∈ t.entries.map Prod.fst
  · rwa [if_pos present]
  · rw [if_neg present]
    refine List.nodup_append.mpr ⟨h, by simp, fun a old b new => ?_⟩
    obtain rfl := List.mem_singleton.mp new
    exact fun same => present (same ▸ old)

theorem Distinct.erase (h : t.Distinct) (key : κ) : (t.erase key).Distinct :=
  List.Nodup.sublist (List.Sublist.map _ List.filter_sublist) h

/-- Where keys come once, every entry is found. -/
theorem Distinct.find?_eq_some_iff (h : t.Distinct) :
    t.find? key = some value ↔ (key, value) ∈ t.entries := by
  obtain ⟨entries⟩ := t
  simp only [Distinct, find?] at h ⊢
  induction entries with
  | nil => simp [lookup]
  | cons entry rest ih =>
    obtain ⟨k, v⟩ := entry
    rw [List.map_cons, List.nodup_cons] at h
    by_cases here : k = key
    · have once : (key, value) ∉ rest := fun later =>
        h.1 (List.mem_map.mpr ⟨_, later, here.symm⟩)
      simp [lookup, here, once, eq_comm]
    · simp [lookup, here, Ne.symm here, ih h.2]

end Table

/-! ## Stores -/

namespace Store

variable {s s' : Store} {b : WriteBody}

theorem distinct_apply (h : Table.Distinct s) (b : WriteBody) : Table.Distinct (s.apply b) := by
  have erased (keys : List TupleKey) : Table.Distinct (keys.foldl Table.erase s) := by
    induction keys generalizing s with
    | nil => exact h
    | cons key rest ih => exact ih (h.erase key)
  have inserted (tuples : List Tuple) {s : Store} (h : Table.Distinct s) :
      Table.Distinct (tuples.foldl put s) := by
    induction tuples generalizing s with
    | nil => exact h
    | cons t rest ih => exact ih (h.insert t.key t.condition)
  exact inserted _ (erased _)

/-- What a body does to its store: the deleted keys are gone, the written tuples whose keys were
absent are there, and the keys that were present keep their conditions. -/
structure Changed (b : WriteBody) (s s' : Store) : Prop where
  deleted : ∀ key ∈ b.deletedKeys, s'.find? key = none
  written : ∀ t ∈ b.writtenTuples, s.find? t.key = none → s'.find? t.key = some t.condition
  kept : ∀ key ∉ b.deletedKeys, ∀ condition, s.find? key = some condition →
    s'.find? key = some condition
  untouched : ∀ key ∉ b.keys, s'.find? key = s.find? key

theorem changed_apply (distinct : b.keys.Nodup) : Changed b s (s.apply b) := by
  have done (op : Operation) (member : op ∈ b.operations) :
      (s.apply b).find? op.key = op.leaves (s.find? op.key) := by
    rw [apply_eq_performAll distinct]
    exact find?_performAll (b.keys_eq ▸ distinct) member
  have written {t : Tuple} (member : t ∈ b.writtenTuples) :
      (s.apply b).find? t.key = some ((s.find? t.key).getD t.condition) :=
    done (.write t) (List.mem_append_left _ (List.mem_map_of_mem member))
  -- A key is either that of one operation, which leaves what it says, or untouched.
  refine ⟨fun key member => ?_, fun t member absent => ?_, fun key stays condition present => ?_,
    fun key other => find?_apply_of_notMem distinct other⟩
  · exact done (.delete key) (List.mem_append_right _ (List.mem_map_of_mem member))
  · rw [written member, absent, Option.getD_none]
  · by_cases own : key ∈ b.keys
    · obtain ⟨t, member, rfl⟩ := List.mem_map.mp ((List.mem_append.mp own).resolve_right stays)
      rw [written member, present, Option.getD_some]
    · rw [find?_apply_of_notMem distinct own, present]

/-! ### Listings -/

theorem precedes_trans (a b c : Tuple) (ab : precedes a b = true) (bc : precedes b c = true) :
    precedes a c = true := by
  simp only [precedes, Bool.or_eq_true, Bool.and_eq_true, decide_eq_true_eq, beq_iff_eq] at *
  grind

theorem precedes_total (a b : Tuple) : (precedes a b || precedes b a) = true := by
  simp only [precedes, Bool.or_eq_true, Bool.and_eq_true, decide_eq_true_eq, beq_iff_eq]
  grind

theorem pairwise_tuples (s : Store) : s.tuples.Pairwise fun a b => precedes a b = true :=
  List.pairwise_mergeSort precedes_trans precedes_total _

theorem mem_tuples_iff (h : Table.Distinct s) {t : Tuple} :
    t ∈ s.tuples ↔ s.find? t.key = some t.condition := by
  rw [h.find?_eq_some_iff, tuples, List.mem_mergeSort, List.mem_map]
  constructor
  · rintro ⟨⟨key, condition⟩, member, rfl⟩
    exact member
  · exact fun member => ⟨_, member, rfl⟩

theorem nodup_tuples (h : Table.Distinct s) : (s.tuples.map Tuple.key).Nodup := by
  have keys : (s.tuples.map Tuple.key).Perm (s.entries.map Prod.fst) := by
    have sorted : (s.tuples.map Tuple.key).Perm _ := (List.mergeSort_perm _ _).map Tuple.key
    rw [List.map_map] at sorted
    exact sorted
  exact keys.nodup_iff.mpr h

end Store

/-! ## Directives that are left out -/

/-- A field is left out of the data of a record: no entry of the object has its name, or the array
ends before its position. -/
def Json.LeavesOut (name : String) (position : ℕ) : Json → Prop
  | .obj fields => ∀ entry ∈ fields, entry.1 ≠ name
  | .arr items => items.length ≤ position
  | _ => True

/-- The second of two fields is its default if it is left out. -/
theorem Record.decode_of_leavesOut {α β γ : Type} {mk : α → β → γ} {first second label : String}
    {decodeFirst : Decoder α} {decodeSecond : Decoder β} {default : β} {v : Json} {c : γ}
    (decoded : (((Record.field first decodeFirst).map mk).seq
      (Record.optional second decodeSecond default)).decode label v = .ok c)
    (leftOut : v.LeavesOut second 1) : ∃ a, c = mk a default := by
  cases v with
  | obj fields =>
    have absent : (Record.optional second decodeSecond default).fromFields fields = .ok default :=
      (Record.Reads.absent leftOut).read
    simp only [Record.decode] at decoded
    split at decoded
    · simp at decoded
    · simp only [Record.seq, Record.map, absent] at decoded
      cases read : (Record.field first decodeFirst).fromFields fields with
      | error e => simp [read, Except.map] at decoded
      | ok a => exact ⟨a, by simpa [read, Except.map, eq_comm] using decoded⟩
  | arr items =>
    simp only [Record.decode, Record.seq, Record.map, Record.field, Record.optional,
      Record.fieldOr] at decoded
    rcases items with _ | ⟨item, _ | ⟨second, rest⟩⟩
    · simp [Except.map] at decoded
    · cases read : decodeFirst item with
      | error e => simp [read, Except.map] at decoded
      | ok a => exact ⟨a, by simpa [read, Except.map, eq_comm] using decoded⟩
    · simp [Json.LeavesOut] at leftOut
  | _ => simp [Record.decode] at decoded

/-- Writes without a directive reject tuples that are present. -/
theorem WriteSection.onDuplicate_of_leavesOut {v : Json} {s : WriteSection}
    (decoded : WriteSection.decode v = .ok s) (leftOut : v.LeavesOut "on_duplicate" 1) :
    s.onDuplicate = .error := by
  obtain ⟨tuples, rfl⟩ := Record.decode_of_leavesOut decoded leftOut
  rfl

/-- Deletes without a directive reject tuples that are absent. -/
theorem DeleteSection.onMissing_of_leavesOut {v : Json} {s : DeleteSection}
    (decoded : DeleteSection.decode v = .ok s) (leftOut : v.LeavesOut "on_missing" 1) :
    s.onMissing = .error := by
  obtain ⟨keys, rfl⟩ := Record.decode_of_leavesOut decoded leftOut
  rfl

/-! ## Requests that succeed -/

namespace Service

variable {s : Service} {r : Request} {storeId : String} {b : WriteBody} {store : Store}

theorem dropStart?_eq_some_iff {α : Type} [DecidableEq α] {start whole rest : List α} :
    dropStart? start whole = some rest ↔ start ++ rest = whole := by
  induction start generalizing whole with
  | nil => simp [dropStart?, eq_comm]
  | cons a start ih =>
    cases whole with
    | nil => simp [dropStart?]
    | cons b whole => by_cases same : a = b <;> simp [dropStart?, same, ih]

theorem dropEnd?_eq_some_iff {α : Type} [DecidableEq α] {ending whole rest : List α} :
    dropEnd? ending whole = some rest ↔ rest ++ ending = whole := by
  rw [dropEnd?, Option.map_eq_some_iff]
  constructor
  · rintro ⟨reversed, found, rfl⟩
    rw [dropStart?_eq_some_iff] at found
    simpa using congrArg List.reverse found
  · rintro rfl
    exact ⟨rest.reverse, dropStart?_eq_some_iff.mpr (by simp), by simp⟩

/-- A request is addressed to a store if it is posted to the path of that store's write requests. -/
theorem route?_eq_some_iff :
    route? r = some storeId ↔ r.method = .post ∧ r.path = writePath storeId ∧ storeId ≠ "" ∧
      '/' ∉ storeId.toList := by
  constructor
  · intro route
    rw [route?] at route
    split at route
    · next post =>
      refine ⟨post, ?_⟩
      unfold writeStoreId? at route
      split at route
      · next id found =>
        obtain ⟨rest, start, ending⟩ := Option.bind_eq_some_iff.mp found
        rw [dropStart?_eq_some_iff] at start
        rw [dropEnd?_eq_some_iff] at ending
        split at route
        · simp at route
        · next proper =>
          obtain rfl := Option.some.inj route
          simp only [Bool.or_eq_true, not_or] at proper
          refine ⟨?_, by simpa using proper.1, by simpa using proper.2⟩
          rw [← String.toList_inj, ← start, ← ending]
          simp [writePath, String.toList_append]
      · simp at route
    · simp at route
  · rintro ⟨post, path, nonempty, noSlash⟩
    rw [route?, if_pos post, path, writeStoreId?_writePath nonempty noSlash]

theorem readBody_eq_ok_iff :
    readBody r = .ok b ↔ ∃ data, r.body = some data ∧ WriteBody.decode data = .ok b := by
  unfold readBody
  cases r.body with
  | none => simp
  | some data => cases decoded : WriteBody.decode data <;> simp [decoded]

/-- Nothing is wrong with a request: it is posted to the path of a store, its body can be read, it
has as many tuples as are allowed and no key twice, there is such a store, and no tuple of the
request is in conflict with it. -/
structure Accepts (s : Service) (r : Request) (storeId : String) (b : WriteBody) (store : Store) :
    Prop where
  post : r.method = .post
  path : r.path = writePath storeId
  named : storeId ≠ ""
  noSlash : '/' ∉ storeId.toList
  read : ∃ data, r.body = some data ∧ WriteBody.decode data = .ok b
  nonempty : 1 ≤ b.tupleCount
  fits : b.tupleCount ≤ s.limit
  distinct : (b.writtenTuples.map Tuple.key ++ b.deletedKeys).Nodup
  found : s.stores.find? storeId = some store
  sameCondition : ∀ t ∈ b.writtenTuples, ∀ condition, store.find? t.key = some condition →
    Condition.sameOption condition t.condition = true
  absent : b.onDuplicate = .error → ∀ t ∈ b.writtenTuples, store.find? t.key = none
  present : b.onMissing = .error → ∀ key ∈ b.deletedKeys, store.find? key ≠ none

theorem refusal?_eq_none_iff :
    store.refusal? b = none ↔
      (∀ t ∈ b.writtenTuples, ∀ condition, store.find? t.key = some condition →
        Condition.sameOption condition t.condition = true) ∧
      (b.onDuplicate = .error → ∀ t ∈ b.writtenTuples, store.find? t.key = none) ∧
      (b.onMissing = .error → ∀ key ∈ b.deletedKeys, store.find? key ≠ none) := by
  have write (t : Tuple) : store.writeRefusal? b.onDuplicate t = none ↔
      (∀ condition, store.find? t.key = some condition →
        Condition.sameOption condition t.condition = true) ∧
      (b.onDuplicate = .error → store.find? t.key = none) := by
    unfold Store.writeRefusal?
    cases store.find? t.key with
    | none => simp
    | some condition =>
      cases same : Condition.sameOption condition t.condition <;> cases b.onDuplicate <;>
        simp [same]
  have delete (key : TupleKey) : store.deleteRefusal? b.onMissing key = none ↔
      (b.onMissing = .error → store.find? key ≠ none) := by
    unfold Store.deleteRefusal? Table.contains
    cases store.find? key <;> cases b.onMissing <;> simp
  -- Nothing is refused exactly if no write and no delete is.
  have split : store.refusal? b = none ↔
      (∀ t ∈ b.writtenTuples, store.writeRefusal? b.onDuplicate t = none) ∧
        ∀ key ∈ b.deletedKeys, store.deleteRefusal? b.onMissing key = none := by
    rw [← List.findSome?_eq_none_iff, ← List.findSome?_eq_none_iff, Store.refusal?]
    cases b.writtenTuples.findSome? (store.writeRefusal? b.onDuplicate) <;> simp
  simp only [split, write, delete]
  constructor
  · rintro ⟨writes, deletes⟩
    exact ⟨fun t member => (writes t member).1, fun strict t member => (writes t member).2 strict,
      fun strict key member => deletes key member strict⟩
  · rintro ⟨same, absent, present⟩
    exact ⟨fun t member => ⟨same t member, fun strict => absent strict t member⟩,
      fun key member strict => present strict key member⟩

/-- What is accepted is decided by nothing else. -/
theorem verdict_eq_ok_iff_accepts {stores : Table String Store} :
    verdict s.limit s.stores r = .ok stores ↔ ∃ storeId b store, s.Accepts r storeId b store ∧
      stores = s.stores.insert storeId (store.apply b) := by
  rw [verdict_eq_ok_iff]
  refine exists_congr fun id => exists_congr fun b => exists_congr fun store => ?_
  rw [route?_eq_some_iff, readBody_eq_ok_iff, bodyRefusal?_eq_none_iff, refusal?_eq_none_iff]
  constructor
  · rintro ⟨⟨post, path, named, noSlash⟩, read, ⟨nonempty, fits, distinct⟩, found,
      ⟨same, absent, present⟩, moved⟩
    exact ⟨⟨post, path, named, noSlash, read, nonempty, fits, distinct, found, same, absent,
      present⟩, moved⟩
  · rintro ⟨h, moved⟩
    exact ⟨⟨h.post, h.path, h.named, h.noSlash⟩, h.read, ⟨h.nonempty, h.fits, h.distinct⟩, h.found,
      ⟨h.sameCondition, h.absent, h.present⟩, moved⟩

/-- A request is answered with success exactly if nothing is wrong with it. -/
theorem status_handle_eq_iff :
    (s.handle r).1.status = 200 ↔ ∃ storeId b store, s.Accepts r storeId b store := by
  cases judged : verdict s.limit s.stores r with
  | ok stores =>
    obtain ⟨headers, response, -⟩ := handle_of_verdict_ok judged
    obtain ⟨storeId, b, store, accepts, -⟩ := verdict_eq_ok_iff_accepts.mp judged
    simp only [response, true_iff]
    exact ⟨storeId, b, store, accepts⟩
  | error e =>
    obtain ⟨headers, response, -⟩ := handle_of_verdict_error judged
    simp only [response, status_refuse_ne, false_iff]
    rintro ⟨storeId, b, store, accepts⟩
    have accepted := verdict_eq_ok_iff_accepts.mpr ⟨storeId, b, store, accepts, rfl⟩
    rw [judged] at accepted
    simp at accepted

/-- A request that is accepted changes its store as it says, and no other store. -/
theorem Accepts.changed (h : s.Accepts r storeId b store) :
    (∃ store', (s.after r).stores.find? storeId = some store' ∧ Store.Changed b store store') ∧
      ∀ other, other ≠ storeId → (s.after r).stores.find? other = s.stores.find? other := by
  obtain ⟨-, -, moved⟩ := handle_of_verdict_ok
    (verdict_eq_ok_iff_accepts.mpr ⟨storeId, b, store, h, rfl⟩)
  rw [after, moved]
  refine ⟨⟨store.apply b, ?_, Store.changed_apply h.distinct⟩, fun other different => ?_⟩
  · rw [Table.find?_insert, if_pos rfl]
  · rw [Table.find?_insert, if_neg different]

theorem calls_after (s : Service) (r : Request) : (s.after r).calls = s.calls + 1 := by
  rcases after_cases s r with ⟨-, kept⟩ | ⟨_, _, _, -, -, -, -, -, moved⟩
  · rw [kept]
  · rw [moved]

/-- A request is answered with success exactly if nothing is wrong with it, and then it changes one
store as it says. Otherwise no store changes. Every request is counted, and none creates or removes
a store. -/
structure Answers (s : Service) (r : Request) : Prop where
  success_iff : (s.handle r).1.status = 200 ↔ ∃ storeId b store, s.Accepts r storeId b store
  changed : ∀ storeId b store, s.Accepts r storeId b store →
    ∃ store', (s.after r).stores.find? storeId = some store' ∧ Store.Changed b store store'
  others : ∀ storeId b store, s.Accepts r storeId b store → ∀ other, other ≠ storeId →
    (s.after r).stores.find? other = s.stores.find? other
  unchanged : (s.handle r).1.status ≠ 200 → (s.after r).stores = s.stores
  hasStore_eq : ∀ storeId, (s.after r).hasStore storeId = s.hasStore storeId
  calls_eq : (s.after r).calls = s.calls + 1

theorem answers (s : Service) (r : Request) : s.Answers r where
  success_iff := status_handle_eq_iff
  changed _ _ _ accepts := accepts.changed.1
  others _ _ _ accepts := accepts.changed.2
  unchanged := stores_after_of_status_ne
  hasStore_eq := hasStore_after s r
  calls_eq := calls_after s r

/-! ## Histories -/

/-- What a service can be asked to do. -/
inductive Command where
  | createStore (storeId : String)
  | seed (storeId : String) (t : Tuple)
  | invoke (r : Request)

/-- Whether a command is a request. -/
def Command.isInvoke : Command → Bool
  | invoke _ => true
  | _ => false

/-- The service after a command. -/
def obey (s : Service) : Command → Service
  | .createStore storeId => s.createStore storeId
  | .seed storeId t => s.seed storeId t
  | .invoke r => s.after r

/-- The service after commands, in order. -/
def history (s : Service) (commands : List Command) : Service := commands.foldl obey s

/-- No store holds two tuples for one key. -/
def Distinct (s : Service) : Prop :=
  ∀ storeId store, s.stores.find? storeId = some store → Table.Distinct store

theorem Distinct.of_insert {s' : Service} (h : s.Distinct)
    (inserted : s'.stores = s.stores.insert storeId store) (distinct : Table.Distinct store) :
    s'.Distinct := by
  intro id other found
  simp only [inserted, Table.find?_insert] at found
  split at found
  · obtain rfl := Option.some.inj found
    exact distinct
  · exact h id other found

/-- A created store is there, and all stores that were there are as before. -/
theorem find?_createStore (s : Service) (storeId other : String) :
    (s.createStore storeId).stores.find? other =
      if other = storeId then some ((s.stores.find? storeId).getD .empty)
      else s.stores.find? other := by
  unfold createStore
  cases found : s.stores.find? storeId with
  | none => simp [Table.find?_insert]
  | some store =>
    by_cases same : other = storeId
    · simp [same, found]
    · simp [same]

theorem Distinct.obey (h : s.Distinct) (c : Command) : (s.obey c).Distinct := by
  cases c with
  | createStore storeId =>
    simp only [Service.obey, createStore]
    cases found : s.stores.find? storeId with
    | some store => exact h
    | none => exact h.of_insert rfl Table.distinct_empty
  | seed storeId t =>
    refine h.of_insert rfl (Table.Distinct.insert ?_ t.key t.condition)
    cases found : s.stores.find? storeId with
    | none => exact Table.distinct_empty
    | some store => exact h storeId store found
  | invoke r =>
    rw [Service.obey]
    rcases after_cases s r with ⟨-, kept⟩ | ⟨id, b, store, -, -, -, found, -, moved⟩
    · rw [kept]
      exact h
    · rw [moved]
      exact h.of_insert rfl (Store.distinct_apply (h id store found) b)

theorem distinct_history (h : s.Distinct) (commands : List Command) :
    (s.history commands).Distinct := by
  induction commands generalizing s with
  | nil => exact h
  | cons c rest ih => exact ih (h.obey c)

theorem calls_history (s : Service) (commands : List Command) :
    (s.history commands).calls = s.calls + commands.countP Command.isInvoke ∧
      (s.history commands).limit = s.limit := by
  induction commands generalizing s with
  | nil => exact ⟨rfl, rfl⟩
  | cons c rest ih =>
    have one : (s.obey c).calls = s.calls + [c].countP Command.isInvoke ∧
        (s.obey c).limit = s.limit := by
      cases c with
      | createStore storeId =>
        simp only [obey, createStore]
        cases s.stores.find? storeId <;> exact ⟨rfl, rfl⟩
      | seed storeId t => exact ⟨rfl, rfl⟩
      | invoke r => exact ⟨calls_after s r, limit_after s r⟩
    obtain ⟨calls, limit⟩ := ih (s.obey c)
    refine ⟨?_, limit.trans one.2⟩
    calc (s.history (c :: rest)).calls
        = (s.obey c).calls + rest.countP Command.isInvoke := calls
      _ = s.calls + ([c].countP Command.isInvoke + rest.countP Command.isInvoke) := by
        rw [one.1, Nat.add_assoc]
      _ = s.calls + (c :: rest).countP Command.isInvoke := by
        rw [← List.countP_append, List.singleton_append]

theorem mem_tuples_iff (h : s.Distinct) {t : Tuple} :
    t ∈ s.tuples storeId ↔ s.conditionAt? (storeId, t.key) = some t.condition := by
  unfold tuples conditionAt?
  cases found : s.stores.find? storeId with
  | none => simp
  | some store => exact Store.mem_tuples_iff (h storeId store found)

theorem pairwise_tuples (s : Service) (storeId : String) :
    (s.tuples storeId).Pairwise fun a b => Store.precedes a b = true := by
  unfold tuples
  cases s.stores.find? storeId with
  | none => exact .nil
  | some store => exact Store.pairwise_tuples store

theorem nodup_tuples (h : s.Distinct) : ((s.tuples storeId).map Tuple.key).Nodup := by
  unfold tuples
  cases found : s.stores.find? storeId with
  | none => exact .nil
  | some store => exact Store.nodup_tuples (h storeId store found)

theorem contains_iff (s : Service) (storeId : String) (key : TupleKey) :
    s.contains storeId key = true ↔
      ∃ condition, s.conditionAt? (storeId, key) = some condition := by
  unfold contains conditionAt?
  cases s.stores.find? storeId with
  | none => simp
  | some store => simp [Table.contains, Option.isSome_iff_exists]

/-- The listing of a store is in order, names no key twice, and has exactly what is in the store. -/
structure Listed (s : Service) (storeId : String) : Prop where
  ordered : (s.tuples storeId).Pairwise fun a b => Store.precedes a b = true
  distinct : ((s.tuples storeId).map Tuple.key).Nodup
  mem_iff : ∀ t, t ∈ s.tuples storeId ↔ s.conditionAt? (storeId, t.key) = some t.condition
  contains_iff : ∀ key, s.contains storeId key = true ↔ ∃ t ∈ s.tuples storeId, t.key = key

theorem Distinct.listed (h : s.Distinct) (storeId : String) : s.Listed storeId := by
  refine ⟨pairwise_tuples s storeId, nodup_tuples h, fun t => mem_tuples_iff h, fun key => ?_⟩
  rw [contains_iff]
  constructor
  · rintro ⟨condition, found⟩
    exact ⟨⟨key, condition⟩, (mem_tuples_iff h).mpr found, rfl⟩
  · rintro ⟨t, listed, rfl⟩
    exact ⟨t.condition, (mem_tuples_iff h).mp listed⟩

/-- A service that was started without stores, after any sequence of commands: every request is
answered as it should be, a directive that is left out rejects conflicts, requests are counted, no
store that is there is created anew, and what is listed is what is there. -/
theorem history_keyed (limit : ℕ) (requestId : ℕ → String) (commands : List Command) :
    let s := history { limit, requestId } commands
    (∀ r, s.Answers r) ∧
    (∀ data writes, WriteSection.decode data = .ok writes → data.LeavesOut "on_duplicate" 1 →
      writes.onDuplicate = .error) ∧
    (∀ data deletes, DeleteSection.decode data = .ok deletes → data.LeavesOut "on_missing" 1 →
      deletes.onMissing = .error) ∧
    s.calls = commands.countP Command.isInvoke ∧ s.limit = limit ∧
    (∀ storeId other, s.hasStore other = true →
      (s.createStore storeId).stores.find? other = s.stores.find? other) ∧
    ∀ storeId, s.Listed storeId := by
  intro s
  have distinct : s.Distinct := distinct_history (by simp [Distinct, Table.find?, Table.lookup]) _
  obtain ⟨calls, kept⟩ := calls_history { limit, requestId } commands
  refine ⟨s.answers, fun _ _ => WriteSection.onDuplicate_of_leavesOut,
    fun _ _ => DeleteSection.onMissing_of_leavesOut, by simpa using calls, kept,
    fun storeId other present => ?_, distinct.listed⟩
  obtain ⟨store, found⟩ := Option.isSome_iff_exists.mp present
  rw [find?_createStore]
  split
  · next same => simp [← same, found]
  · rfl

end Service

end TupleClient
