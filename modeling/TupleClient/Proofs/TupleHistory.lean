import Mathlib.Data.List.Chain
import TupleClient.Proofs.SharedService

/-!
# The history of a tuple

Whoever sends them, the requests that a service accepts give every key a history: the writes and
deletes of the key that were done, one after the other. The history tells what stands under the key.
If no request ignores conflicts, writes and deletes take turns, so the last one tells it all. With
any directives, the condition of a tuple stays what it is until the tuple is deleted.

## Main definitions

* `Operation.leavesAll` — what operations leave under their key
* `Operation.Alternate` — writes and deletes take turns
* `Operation.lastLeft` — what stands under a key if the last operation decides
* `Service.performedBy`, `Service.performed` — the operations under a key that a service does for
  one request, and for requests in order
* `Service.IsStrict` — a request that ignores no conflict

## Main results

* `Service.performedBy_cases` — what one request adds to the history of a key
* `Service.conditionAt?_afterAll`, `Service.alternate_performed` — a history tells what stands under
  its key, and takes turns where no conflict is ignored
* `Service.history_performed` — the history of a key
-/

namespace TupleClient

/-! ## Histories of operations -/

namespace Operation

/-- What is found under a key after operations on it, given what was found before. -/
def leavesAll (ops : List Operation) (found : Option (Option Condition)) :
    Option (Option Condition) :=
  ops.foldl (fun found op => op.leaves found) found

/-- Writes and deletes take turns, starting with a write exactly if nothing is present at first. -/
structure Alternate (present : Bool) (ops : List Operation) : Prop where
  first : ∀ op ∈ ops.head?, op.isWrite = !present
  next : ops.IsChain fun op next => next.isWrite = !op.isWrite

/-- What stands under a key if the last operation decides, given what stood there at first. -/
def lastLeft (initial : Option (Option Condition)) (ops : List Operation) :
    Option (Option Condition) :=
  match ops.getLast? with
  | none => initial
  | some (write t) => some t.condition
  | some (delete _) => none

variable {op : Operation} {ops rest : List Operation} {present : Bool}
  {found : Option (Option Condition)}

theorem leavesAll_cons : leavesAll (op :: rest) found = leavesAll rest (op.leaves found) := rfl

theorem leavesAll_append (more : List Operation) :
    leavesAll (ops ++ more) found = leavesAll more (leavesAll ops found) := List.foldl_append

theorem alternate_nil : Alternate present [] :=
  ⟨by simp, .nil⟩

theorem alternate_cons_iff :
    Alternate present (op :: rest) ↔ op.isWrite = !present ∧ Alternate op.isWrite rest := by
  constructor
  · rintro ⟨first, next⟩
    obtain ⟨second, later⟩ := List.isChain_cons.mp next
    exact ⟨first op rfl, second, later⟩
  · rintro ⟨first, second, later⟩
    exact ⟨by simpa using first, List.isChain_cons.mpr ⟨second, later⟩⟩

theorem lastLeft_cons (initial : Option (Option Condition)) :
    lastLeft initial (op :: rest) = lastLeft (lastLeft initial [op]) rest := by
  unfold lastLeft
  rw [List.getLast?_cons]
  cases rest.getLast? with
  | none => rfl
  | some last => cases last <;> rfl

/-- Where operations take turns, the last one decides. -/
theorem leavesAll_of_alternate (turns : Alternate found.isSome ops) :
    leavesAll ops found = lastLeft found ops := by
  induction ops generalizing found with
  | nil => rfl
  | cons op rest ih =>
    obtain ⟨own, later⟩ := alternate_cons_iff.mp turns
    -- A write finds nothing, so it leaves its own condition.
    have left : op.leaves found = lastLeft found [op] := by
      cases op with
      | write t => cases found <;> simp_all [isWrite, leaves, lastLeft]
      | delete key => rfl
    rw [← isSome_leaves op found] at later
    rw [leavesAll_cons, ih later, left, ← lastLeft_cons]

/-- A condition that was not there at first is that of a write that is done. -/
theorem exists_write_of_leavesAll {condition : Option Condition}
    (last : leavesAll ops found = some condition) :
    found = some condition ∨ ∃ t, write t ∈ ops ∧ t.condition = condition := by
  induction ops generalizing found with
  | nil => exact .inl last
  | cons op rest ih =>
    rcases ih last with here | ⟨t, later, own⟩
    · cases op with
      | write t =>
        cases found with
        | some other => exact .inl here
        | none => exact .inr ⟨t, List.mem_cons_self, Option.some.inj here⟩
      | delete key => simp [leaves] at here
    · exact .inr ⟨t, List.mem_cons_of_mem _ later, own⟩

/-- Another condition comes only from a write that is done after a delete. -/
theorem exists_sublist_of_leavesAll {key : TupleKey} {condition condition' : Option Condition}
    (keys : ∀ op ∈ ops, op.key = key)
    (last : leavesAll ops (some condition) = some condition')
    (changed : condition ≠ condition') :
    ∃ t, [delete key, write t].Sublist ops ∧ t.condition = condition' := by
  induction ops with
  | nil => exact absurd (Option.some.inj last) changed
  | cons op rest ih =>
    obtain ⟨own, others⟩ := List.forall_mem_cons.mp keys
    cases op with
    | write t =>
      -- The write finds the tuple there and changes nothing.
      obtain ⟨u, later, same⟩ := ih others last
      exact ⟨u, later.cons _, same⟩
    | delete deleted =>
      obtain rfl : deleted = key := own
      rcases exists_write_of_leavesAll (leavesAll_cons.symm.trans last) with
        there | ⟨t, later, same⟩
      · simp [leaves] at there
      · exact ⟨t, (List.singleton_sublist.mpr later).cons_cons _, same⟩

end Operation

/-- Where keys come once, an operation is the only one on its key. -/
theorem filter_key_eq {ops : List Operation} (distinct : (ops.map Operation.key).Nodup)
    {op : Operation} (member : op ∈ ops) : (ops.filter fun o => o.key = op.key) = [op] := by
  induction ops with
  | nil => simp at member
  | cons first rest ih =>
    rw [List.map_cons, List.nodup_cons] at distinct
    rcases List.mem_cons.mp member with rfl | later
    · have others : ∀ o ∈ rest, ¬ o.key = op.key := fun o inside same =>
        distinct.1 (same ▸ List.mem_map_of_mem inside)
      rw [List.filter_cons_of_pos (by simp), List.filter_eq_nil_iff.mpr (by simpa using others)]
    · have other : ¬ first.key = op.key := fun same =>
        distinct.1 (same ▸ List.mem_map_of_mem later)
      rw [List.filter_cons_of_neg (by simpa using other), ih distinct.2 later]

/-- A body that is not refused does nothing under a key, or one operation without a conflict. -/
theorem Store.apply_cases {s : Store} {b : WriteBody} (distinct : b.keys.Nodup)
    (unrefused : s.refusal? b = none) (key : TupleKey) :
    let own := b.operations.filter fun op => op.key = key
    (own = [] ∧ (s.apply b).find? key = s.find? key) ∨
      ∃ op, own = [op] ∧ op.key = key ∧ s.conflict? b.policy op = none ∧
        (s.apply b).find? key = op.leaves (s.find? key) := by
  intro own
  by_cases named : key ∈ b.keys
  · rw [refusal?_eq_findSome?, List.findSome?_eq_none_iff] at unrefused
    rw [apply_eq_performAll distinct]
    rw [b.keys_eq] at named distinct
    obtain ⟨op, member, rfl⟩ := List.mem_map.mp named
    exact .inr ⟨op, filter_key_eq distinct member, rfl, unrefused op member,
      find?_performAll distinct member⟩
  · refine .inl ⟨List.filter_eq_nil_iff.mpr fun op member same => ?_,
      find?_apply_of_notMem distinct named⟩
    rw [b.keys_eq] at named
    exact named (List.mem_map.mpr ⟨op, member, of_decide_eq_true same⟩)

/-! ## The history that requests make -/

namespace Service

/-- A request ignores no conflict: the sections of its body have the rejecting directive, be it
given or by default. -/
def IsStrict (r : Request) : Prop :=
  ∀ b, readBody r = .ok b → (∀ s, b.writes = some s → s.onDuplicate = .error) ∧
    ∀ s, b.deletes = some s → s.onMissing = .error

/-- The operations of a request in a cell. -/
def operationsIn (cell : Cell) (r : Request) : List Operation :=
  match route? r, readBody r with
  | some storeId, .ok b =>
    if storeId = cell.1 then b.operations.filter fun op => op.key = cell.2 else []
  | _, _ => []

/-- The operations in a cell that a service does for a request, which are those of the request if it
is answered with success. -/
def performedBy (s : Service) (cell : Cell) (r : Request) : List Operation :=
  if (s.handle r).1.status = 200 then operationsIn cell r else []

/-- The history of a cell: the operations in it that a service does for requests in order. -/
def performed (cell : Cell) : Service → List Request → List Operation
  | _, [] => []
  | s, r :: rest => s.performedBy cell r ++ performed cell (s.after r) rest

variable {s : Service} {cell : Cell} {r : Request} {requests : List Request}

theorem IsStrict.policy_eq {b : WriteBody} (h : IsStrict r) (read : readBody r = .ok b) :
    b.policy = .strict := by
  obtain ⟨writes, deletes⟩ := h b read
  have duplicate : b.onDuplicate = .error := by
    cases found : b.writes with
    | none => simp [WriteBody.onDuplicate, found]
    | some given => simpa [WriteBody.onDuplicate, found] using writes given found
  have missing : b.onMissing = .error := by
    cases found : b.deletes with
    | none => simp [WriteBody.onMissing, found]
    | some given => simpa [WriteBody.onMissing, found] using deletes given found
  simp [WriteBody.policy, duplicate, missing, ConflictPolicy.strict]

/-- The requests of a strict transaction ignore no conflict. -/
theorem isStrict_request {t : Transaction} (strict : t.policy = .strict) (chunk : Chunk) :
    IsStrict (t.request chunk) := by
  intro b read
  rw [readBody_request] at read
  obtain rfl := Except.ok.inj read
  rw [strict]
  exact WriteBody.directives_ofChunk chunk .strict t.call.authorizationModelId

variable (s cell r) in
/-- A request does nothing in a cell, or one operation that is not in conflict there. -/
theorem performedBy_cases :
    (s.performedBy cell r = [] ∧ (s.after r).conditionAt? cell = s.conditionAt? cell) ∨
      ∃ b op, ∃ store : Store, route? r = some cell.1 ∧ readBody r = .ok b ∧ op.key = cell.2 ∧
        store.find? cell.2 = s.conditionAt? cell ∧ store.conflict? b.policy op = none ∧
        s.performedBy cell r = [op] ∧
        (s.after r).conditionAt? cell = op.leaves (s.conditionAt? cell) := by
  cases judged : verdict s.limit s.stores r with
  | error e =>
    obtain ⟨headers, response, after⟩ := handle_of_verdict_error judged
    refine .inl ⟨?_, ?_⟩
    · rw [performedBy, response, if_neg (status_refuse_ne e headers)]
    · rw [Service.after, after, conditionAt?, conditionAt?]
  | ok stores =>
    obtain ⟨headers, response, after⟩ := handle_of_verdict_ok judged
    obtain ⟨storeId, b, store, route, read, fits, found, unrefused, rfl⟩ :=
      verdict_eq_ok_iff.mp judged
    have distinct := nodup_of_bodyRefusal?_eq_none fits
    have performed : s.performedBy cell r = operationsIn cell r := by
      rw [performedBy, response, if_pos rfl]
    rw [performed, operationsIn, route, read, Service.after, after]
    dsimp only
    by_cases same : storeId = cell.1
    · subst same
      have here : conditionAt? { s with
          stores := s.stores.insert cell.1 (store.apply b), calls := s.calls + 1 } cell =
          (store.apply b).find? cell.2 := by
        rw [conditionAt?, Table.find?_insert, if_pos rfl, Option.bind_some]
      have before : s.conditionAt? cell = store.find? cell.2 := by
        rw [conditionAt?, found, Option.bind_some]
      rw [if_pos rfl, here, before]
      rcases Store.apply_cases distinct unrefused cell.2 with
        untouched | ⟨op, alone, key, free, left⟩
      · exact .inl untouched
      · exact .inr ⟨b, op, store, rfl, rfl, key, rfl, free, alone, left⟩
    · rw [if_neg same, conditionAt?, conditionAt?, Table.find?_insert, if_neg (Ne.symm same)]
      exact .inl ⟨rfl, rfl⟩

/-- A strict request does an operation only where it takes its turn. -/
theorem isWrite_of_performedBy {op : Operation}
    (strict : route? r = some cell.1 → IsStrict r) (done : s.performedBy cell r = [op]) :
    op.isWrite = !(s.conditionAt? cell).isSome := by
  rcases performedBy_cases s cell r with
    ⟨nothing, -⟩ | ⟨b, other, store, route, read, key, here, free, alone, -⟩
  · simp [nothing] at done
  · obtain rfl : other = op := by simpa [alone] using done
    rw [(strict route).policy_eq read, Store.conflict?_strict_eq_none_iff, key, here] at free
    exact free

/-- What stands in a cell after requests is what its history leaves there. -/
theorem conditionAt?_afterAll (s : Service) (cell : Cell) (requests : List Request) :
    (s.afterAll requests).conditionAt? cell =
      Operation.leavesAll (performed cell s requests) (s.conditionAt? cell) := by
  induction requests generalizing s with
  | nil => rfl
  | cons r rest ih =>
    have step : Operation.leavesAll (s.performedBy cell r) (s.conditionAt? cell) =
        (s.after r).conditionAt? cell := by
      rcases performedBy_cases s cell r with
        ⟨nothing, kept⟩ | ⟨_, op, _, -, -, -, -, -, alone, left⟩
      · rw [nothing, kept]
        rfl
      · rw [alone, left]
        rfl
    rw [performed, Operation.leavesAll_append, step]
    exact ih (s.after r)

/-- Where requests ignore no conflict, the writes and the deletes of a key take turns. -/
theorem alternate_performed (strict : ∀ r ∈ requests, route? r = some cell.1 → IsStrict r) :
    Operation.Alternate (s.conditionAt? cell).isSome (performed cell s requests) := by
  induction requests generalizing s with
  | nil => exact Operation.alternate_nil
  | cons r rest ih =>
    obtain ⟨now, later⟩ := List.forall_mem_cons.mp strict
    have turns := ih (s := s.after r) later
    rw [performed]
    rcases performedBy_cases s cell r with
      ⟨nothing, kept⟩ | ⟨_, op, _, -, -, -, -, -, alone, left⟩
    · rwa [nothing, List.nil_append, ← kept]
    · rw [left, Operation.isSome_leaves] at turns
      rw [alone, List.singleton_append, Operation.alternate_cons_iff]
      exact ⟨isWrite_of_performedBy now alone, turns⟩

theorem key_of_mem_performed {op : Operation} (member : op ∈ performed cell s requests) :
    op.key = cell.2 := by
  induction requests generalizing s with
  | nil => simp [performed] at member
  | cons r rest ih =>
    rw [performed, List.mem_append] at member
    rcases member with now | later
    · rcases performedBy_cases s cell r with
        ⟨nothing, -⟩ | ⟨_, other, _, -, -, key, -, -, alone, -⟩
      · simp [nothing] at now
      · rw [alone, List.mem_singleton] at now
        rwa [now]
    · exact ih later

/-- A tuple that is there before and after a request keeps its condition. -/
theorem conditionAt?_after_of_ne_none {condition : Option Condition}
    (before : s.conditionAt? cell = some condition) (after : (s.after r).conditionAt? cell ≠ none) :
    (s.after r).conditionAt? cell = some condition := by
  rcases performedBy_cases s cell r with ⟨-, kept⟩ | ⟨_, op, _, -, -, -, -, -, -, left⟩
  · rw [kept, before]
  · rw [left, before] at after ⊢
    cases op with
    | write t => rfl
    | delete key => exact absurd rfl after

/-- A tuple that is there all the time keeps its condition. -/
theorem conditionAt?_afterAll_of_ne_none
    (present : ∀ before, before <+: requests → (s.afterAll before).conditionAt? cell ≠ none) :
    (s.afterAll requests).conditionAt? cell = s.conditionAt? cell := by
  induction requests generalizing s with
  | nil => rfl
  | cons r rest ih =>
    obtain ⟨condition, here⟩ := Option.ne_none_iff_exists'.mp (present [] List.nil_prefix)
    have here : s.conditionAt? cell = some condition := here
    have next : (s.after r).conditionAt? cell ≠ none :=
      present [r] (List.prefix_append [r] rest)
    calc (s.afterAll (r :: rest)).conditionAt? cell
        = ((s.after r).afterAll rest).conditionAt? cell := rfl
      _ = (s.after r).conditionAt? cell :=
          ih fun before inside => present (r :: before) (List.cons_prefix_cons.mpr ⟨rfl, inside⟩)
      _ = s.conditionAt? cell := (conditionAt?_after_of_ne_none here next).trans here.symm

/-- A service does at most one operation in a cell for each request. Where the requests to a store
ignore no conflict, the writes and the deletes of a key take turns, and the last one says what
stands under the key. With any directives, a condition stays the same as long as the tuple is there,
and changes only by a delete and a later write. -/
theorem history_performed (s : Service) (cell : Cell) (requests : List Request) :
    let history := performed cell s requests
    let initial := s.conditionAt? cell
    let final := (s.afterAll requests).conditionAt? cell
    (∀ now r, (performedBy now cell r).length ≤ 1) ∧
    ((∀ r ∈ requests, route? r = some cell.1 → IsStrict r) →
      Operation.Alternate initial.isSome history ∧ final = Operation.lastLeft initial history) ∧
    ((∀ before, before <+: requests → (s.afterAll before).conditionAt? cell ≠ none) →
      final = initial) ∧
    ∀ condition condition', initial = some condition → final = some condition' →
      condition ≠ condition' →
      ∃ t, [.delete cell.2, .write t].Sublist history ∧ t.condition = condition' := by
  intro history initial final
  have told : final = Operation.leavesAll history initial := conditionAt?_afterAll s cell requests
  refine ⟨fun now r => ?_, fun strict => ?_, conditionAt?_afterAll_of_ne_none, ?_⟩
  · rcases performedBy_cases now cell r with
      ⟨nothing, -⟩ | ⟨_, op, _, -, -, -, -, -, alone, -⟩
    · simp [nothing]
    · simp [alone]
  · have turns := alternate_performed strict (s := s)
    exact ⟨turns, told.trans (Operation.leavesAll_of_alternate turns)⟩
  · intro condition condition' first last changed
    rw [told, first] at last
    exact Operation.exists_sublist_of_leavesAll (fun _ => key_of_mem_performed) last changed

/-- A reader who is there is written in vain, deleted, deleted in vain, and written with a
condition. -/
theorem history_performed_reader :
    let anne := ChangeSet.reader "anne"
    let guarded : Tuple := { anne with condition := some ⟨"inside", []⟩ }
    let t : Transaction := ⟨"s", .strict, { storeId := some "s" }, .token⟩
    let removal := t.request ⟨0, [], [anne]⟩
    let requests := [t.request ⟨0, [guarded], []⟩, removal, removal, t.request ⟨0, [guarded], []⟩]
    let s := (Service.createStore {} "s").seed "s" anne
    let history := performed ("s", anne.key) s requests
    history.map Operation.isWrite = [false, true] ∧ Operation.Alternate true history ∧
      (s.afterAll requests).conditionAt? ("s", anne.key) =
        Operation.lastLeft (some none) history ∧
      ∃ u, [.delete anne.key, .write u].Sublist history ∧
        u.condition.map Condition.name = some "inside" := by
  intro anne guarded t removal requests s history
  have strict : ∀ r ∈ requests, IsStrict r := by
    simp [requests, removal, isStrict_request (t := t) rfl]
  obtain ⟨-, turns, -, changed⟩ := history_performed s ("s", anne.key) requests
  obtain ⟨alternate, final⟩ := turns fun r member _ => strict r member
  have named : ((s.afterAll requests).conditionAt? ("s", anne.key)).map
      (Option.map Condition.name) = some (some "inside") := by decide +kernel
  obtain ⟨condition, last, named⟩ := Option.map_eq_some_iff.mp named
  have unlike : none ≠ condition := by
    rintro rfl
    simp at named
  obtain ⟨u, deletedFirst, same⟩ := changed none condition rfl last unlike
  exact ⟨by decide +kernel, alternate, final, u, deletedFirst, same ▸ named⟩

end Service

end TupleClient
