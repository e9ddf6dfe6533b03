import TupleClient.Service.Store

/-!
# Operations one at a time

A request is judged as a whole and takes effect as a whole. The keys of a request that is not
refused are all different, so none of its operations sees what another one does: what it meets, and
what it leaves, is the same as if the operations were done one after the other.

## Main definitions

* `Operation` — a write of a tuple or a delete of a key
* `Store.perform`, `Store.performAll` — a store after one operation, and after several in order
* `Store.conflict?` — why a store refuses one operation

## Main results

* `repeatedKey?_eq_none_iff`, `repeatedKey?_eq_some` — which key is reported as repeated
* `Store.refusal?_eq_findSome?` — a body is refused for its first operation in conflict
* `Store.apply_eq_performAll` — a body has the effect of its operations one after the other
* `Store.apply_replay` — a body without rejecting directives may be applied again
-/

namespace TupleClient

/-- One change of a store. -/
inductive Operation where
  | write (t : Tuple)
  | delete (key : TupleKey)

namespace Operation

/-- The key that an operation is about. -/
def key : Operation → TupleKey
  | write t => t.key
  | delete key => key

/-- Whether an operation is a write. -/
def isWrite : Operation → Bool
  | write _ => true
  | delete _ => false

/-- What is found under the key of an operation after it, given what was found before. -/
def leaves : Operation → Option (Option Condition) → Option (Option Condition)
  | write t, found => some (found.getD t.condition)
  | delete _, _ => none

/-- Whether a policy rejects no conflict of an operation. -/
def IsIgnored (policy : ConflictPolicy) : Operation → Prop
  | write _ => policy.onDuplicateWrite = .ignore
  | delete _ => policy.onMissingDelete = .ignore

/-- Something is present after a write, and nothing after a delete. -/
theorem isSome_leaves (op : Operation) (found : Option (Option Condition)) :
    (op.leaves found).isSome = op.isWrite := by
  cases op <;> rfl

end Operation

namespace Store

variable {s : Store} {ops : List Operation} {policy : ConflictPolicy}

/-- The store after an operation. A write of a key that is present and a delete of one that is
absent change nothing. -/
def perform (s : Store) : Operation → Store
  | .write t => if s.contains t.key then s else s.put t
  | .delete key => if s.contains key then s.erase key else s

/-- The store after operations, done in order. -/
def performAll (s : Store) (ops : List Operation) : Store := ops.foldl perform s

/-- Why a store refuses an operation. -/
def conflict? (s : Store) (policy : ConflictPolicy) : Operation → Option Refusal
  | .write t => s.writeRefusal? policy.onDuplicateWrite t
  | .delete key => s.deleteRefusal? policy.onMissingDelete key

/-! ## One operation -/

theorem perform_delete (key : TupleKey) : s.perform (.delete key) = s.erase key := by
  by_cases present : s.contains key = true
  · exact if_pos present
  · have absent : s.find? key = none := by simpa [Table.contains] using present
    rw [perform, if_neg present, Table.erase_of_find?_eq_none absent]

theorem find?_perform (op : Operation) (key : TupleKey) :
    (s.perform op).find? key = if key = op.key then op.leaves (s.find? key) else s.find? key := by
  cases op with
  | delete deleted =>
    rw [perform_delete, Table.find?_erase]
    rfl
  | write t =>
    cases found : s.find? t.key with
    | some condition =>
      rw [perform, if_pos (by simp [Table.contains, found])]
      by_cases same : key = t.key
      · simp [Operation.key, Operation.leaves, same, found]
      · simp [Operation.key, same]
    | none =>
      rw [perform, if_neg (by simp [Table.contains, found]), put, Table.find?_insert]
      by_cases same : key = t.key
      · simp [Operation.key, Operation.leaves, same, found]
      · simp [Operation.key, same]

/-- An operation whose outcome is there already changes nothing. -/
theorem perform_eq_self {op : Operation} {found : Option (Option Condition)}
    (done : s.find? op.key = op.leaves found) : s.perform op = s := by
  cases op with
  | write t => simp_all [perform, Operation.key, Operation.leaves, Table.contains]
  | delete key => simp_all [perform, Operation.key, Operation.leaves, Table.contains]

/-- A conflict depends only on what is found under the key. -/
theorem conflict?_congr {s' : Store} {op : Operation} (same : s.find? op.key = s'.find? op.key) :
    s.conflict? policy op = s'.conflict? policy op := by
  cases op with
  | write t => simp_all [conflict?, writeRefusal?, Operation.key]
  | delete key => simp_all [conflict?, deleteRefusal?, Operation.key, Table.contains]

/-- The strict policy lets through the writes of keys that are absent and the deletes of keys that
are present. -/
theorem conflict?_strict_eq_none_iff {op : Operation} :
    s.conflict? .strict op = none ↔ op.isWrite = !(s.find? op.key).isSome := by
  cases op with
  | write t =>
    cases found : s.find? t.key with
    | none => simp [conflict?, writeRefusal?, Operation.isWrite, Operation.key, found]
    | some condition =>
      cases same : Condition.sameOption condition t.condition <;>
        simp [conflict?, writeRefusal?, ConflictPolicy.strict, Operation.isWrite, Operation.key,
          found, same]
  | delete key =>
    cases found : s.find? key <;>
      simp [conflict?, deleteRefusal?, ConflictPolicy.strict, Operation.isWrite, Operation.key,
        Table.contains, found]

/-- An operation that is done again meets no conflict, if it met none and its conflicts are
ignored. -/
theorem conflict?_again {s' : Store} {op : Operation} (ignored : op.IsIgnored policy)
    (accepted : s.conflict? policy op = none)
    (done : s'.find? op.key = op.leaves (s.find? op.key)) :
    s'.conflict? policy op = none := by
  cases op with
  | delete key => simp_all [conflict?, deleteRefusal?, Operation.IsIgnored]
  | write t =>
    simp only [Operation.IsIgnored] at ignored
    simp only [Operation.key, Operation.leaves] at done
    simp only [conflict?, writeRefusal?, done, ignored, reduceCtorEq, if_false] at accepted ⊢
    cases found : s.find? t.key with
    | none => simp [Condition.sameOption_refl]
    | some condition => simpa [found] using accepted

/-! ## Several operations -/

theorem performAll_append (more : List Operation) :
    s.performAll (ops ++ more) = (s.performAll ops).performAll more := List.foldl_append

theorem find?_performAll_of_notMem {key : TupleKey} (other : key ∉ ops.map Operation.key) :
    (s.performAll ops).find? key = s.find? key := by
  induction ops generalizing s with
  | nil => rfl
  | cons op rest ih =>
    rw [List.map_cons, List.mem_cons, not_or] at other
    have first : (s.perform op).find? key = s.find? key := by
      rw [find?_perform, if_neg other.1]
    exact (ih other.2).trans first

/-- Where no key occurs twice, every operation finds what was there before all of them. -/
theorem find?_performAll (distinct : (ops.map Operation.key).Nodup) {op : Operation}
    (member : op ∈ ops) : (s.performAll ops).find? op.key = op.leaves (s.find? op.key) := by
  induction ops generalizing s with
  | nil => simp at member
  | cons first rest ih =>
    rw [List.map_cons, List.nodup_cons] at distinct
    rcases List.mem_cons.mp member with rfl | later
    · -- The operations after this one leave its key alone.
      have last := find?_performAll_of_notMem (s := s.perform op) distinct.1
      rw [find?_perform, if_pos rfl] at last
      exact last
    · -- The first operation leaves the key of this one alone.
      have other : op.key ≠ first.key := fun same =>
        distinct.1 (same ▸ List.mem_map_of_mem later)
      have rest := ih (s := s.perform first) distinct.2 later
      rw [find?_perform, if_neg other] at rest
      exact rest

theorem performAll_eq_self (idle : ∀ op ∈ ops, s.perform op = s) : s.performAll ops = s := by
  induction ops with
  | nil => rfl
  | cons op rest ih =>
    have first : s.perform op = s := idle op List.mem_cons_self
    calc s.performAll (op :: rest) = (s.perform op).performAll rest := rfl
      _ = s.performAll rest := by rw [first]
      _ = s := ih fun o member => idle o (List.mem_cons_of_mem _ member)

end Store

/-! ## Repeated keys -/

theorem repeatedKey?_eq_none_iff {seen keys : List TupleKey} :
    repeatedKey? seen keys = none ↔ keys.Nodup ∧ ∀ key ∈ keys, key ∉ seen := by
  -- Every key that is passed is seen from then on.
  induction keys generalizing seen with
  | nil => simp [repeatedKey?]
  | cons key rest ih =>
    rw [repeatedKey?]
    by_cases again : key ∈ seen
    · simp [again]
    · rw [if_neg again, ih, List.nodup_cons]
      constructor
      · rintro ⟨distinct, fresh⟩
        have unlike : key ∉ rest := fun later => fresh key later List.mem_cons_self
        refine ⟨⟨unlike, distinct⟩, fun other member => ?_⟩
        rcases List.mem_cons.mp member with rfl | later
        · exact again
        · exact fun before => fresh other later (List.mem_cons_of_mem _ before)
      · rintro ⟨⟨unlike, distinct⟩, fresh⟩
        refine ⟨distinct, fun other later before => ?_⟩
        rcases List.mem_cons.mp before with rfl | before
        · exact unlike later
        · exact fresh other (List.mem_cons_of_mem _ later) before

/-- The key that is reported stands at the first position whose key occurred before. -/
theorem repeatedKey?_eq_some {seen keys : List TupleKey} {key : TupleKey}
    (h : repeatedKey? seen keys = some key) :
    ∃ q, keys[q]? = some key ∧ (key ∈ seen ∨ key ∈ keys.take q) ∧
      ∀ p < q, ∀ other, keys[p]? = some other → other ∉ seen ∧ other ∉ keys.take p := by
  induction keys generalizing seen with
  | nil => simp [repeatedKey?] at h
  | cons first rest ih =>
    rw [repeatedKey?] at h
    by_cases again : first ∈ seen
    · rw [if_pos again] at h
      obtain rfl := Option.some.inj h
      exact ⟨0, rfl, .inl again, fun p before => absurd before (Nat.not_lt_zero p)⟩
    · rw [if_neg again] at h
      obtain ⟨q, found, repeated, least⟩ := ih h
      refine ⟨q + 1, found, ?_, fun p before other standing => ?_⟩
      · rw [List.take_succ_cons, List.mem_cons]
        rw [List.mem_cons] at repeated
        rcases repeated with (rfl | before) | before
        · exact .inr (.inl rfl)
        · exact .inl before
        · exact .inr (.inr before)
      · cases p with
        | zero =>
          obtain rfl := Option.some.inj standing
          exact ⟨again, by simp⟩
        | succ p =>
          obtain ⟨fresh, unlike⟩ := least p (by omega) other standing
          rw [List.mem_cons, not_or] at fresh
          exact ⟨fresh.2, by simp [fresh.1, unlike]⟩

/-! ## Bodies -/

namespace WriteBody

/-- The operations of a body, the writes first. -/
def operations (b : WriteBody) : List Operation :=
  b.writtenTuples.map .write ++ b.deletedKeys.map .delete

/-- The directives of a body. -/
def policy (b : WriteBody) : ConflictPolicy := ⟨b.onDuplicate, b.onMissing⟩

theorem keys_eq (b : WriteBody) : b.keys = b.operations.map Operation.key := by
  simp [keys, operations, Function.comp_def, Operation.key]

theorem tupleCount_eq (b : WriteBody) : b.tupleCount = b.operations.length := by
  simp [tupleCount, operations]

theorem isReplaySafe_iff {b : WriteBody} :
    b.isReplaySafe = true ↔ (∀ s, b.writes = some s → s.onDuplicate = .ignore) ∧
      ∀ s, b.deletes = some s → s.onMissing = .ignore := by
  obtain ⟨writes, deletes, model⟩ := b
  cases writes <;> cases deletes <;> simp [isReplaySafe]

theorem isIgnored_of_isReplaySafe {b : WriteBody} (safe : b.isReplaySafe = true) {op : Operation}
    (member : op ∈ b.operations) : op.IsIgnored b.policy := by
  obtain ⟨writes, deletes, model⟩ := b
  cases op with
  | write t => cases writes <;> simp_all [operations, writtenTuples, deletedKeys, isReplaySafe,
      Operation.IsIgnored, policy, onDuplicate]
  | delete key => cases deletes <;> simp_all [operations, writtenTuples, deletedKeys, isReplaySafe,
      Operation.IsIgnored, policy, onMissing]

end WriteBody

namespace Store

variable {s : Store} {b : WriteBody}

/-- A body is refused for its first operation in conflict, where each one is judged against the
store before all of them. -/
theorem refusal?_eq_findSome? : s.refusal? b = b.operations.findSome? (s.conflict? b.policy) := by
  have parts : b.operations.findSome? (s.conflict? b.policy) =
      (b.writtenTuples.findSome? (s.writeRefusal? b.onDuplicate)).or
        (b.deletedKeys.findSome? (s.deleteRefusal? b.onMissing)) := by
    rw [WriteBody.operations, List.findSome?_append, List.findSome?_map, List.findSome?_map]
    rfl
  rw [parts, refusal?]
  cases b.writtenTuples.findSome? (s.writeRefusal? b.onDuplicate) <;> rfl

/-- Writes one after the other are the insertions of those whose keys were absent before. -/
theorem performAll_writes {tuples : List Tuple} (distinct : (tuples.map Tuple.key).Nodup) :
    s.performAll (tuples.map .write) = (tuples.filter fun t => !s.contains t.key).foldl put s := by
  induction tuples generalizing s with
  | nil => rfl
  | cons t rest ih =>
    rw [List.map_cons, List.nodup_cons] at distinct
    change (s.perform (.write t)).performAll (rest.map .write) = _
    rw [ih distinct.2]
    cases present : s.contains t.key with
    | true => simp [perform, present]
    | false =>
      -- The insertion changes nothing for the keys of the tuples that follow.
      have unseen : ∀ other ∈ rest, (s.put t).contains other.key = s.contains other.key := by
        intro other member
        have different : other.key ≠ t.key := fun same =>
          distinct.1 (same ▸ List.mem_map_of_mem member)
        rw [Table.contains, put, Table.find?_insert, if_neg different, Table.contains]
      have filtered := List.filter_congr fun other member => congrArg (!·) (unseen other member)
      simp [perform, present, filtered]

theorem foldl_erase_put {t : Tuple} {keys : List TupleKey} (different : t.key ∉ keys) :
    keys.foldl Table.erase (s.put t) = put (keys.foldl Table.erase s) t := by
  induction keys generalizing s with
  | nil => rfl
  | cons key rest ih =>
    rw [List.mem_cons, not_or] at different
    have first : Table.erase (s.put t) key = put (Table.erase s key) t :=
      Table.erase_insert_of_ne different.1 s t.condition
    rw [List.foldl_cons, first, ih different.2, List.foldl_cons]

/-- Erasures may be done before insertions under other keys. -/
theorem foldl_erase_foldl_put {tuples : List Tuple} {keys : List TupleKey}
    (different : ∀ t ∈ tuples, t.key ∉ keys) :
    keys.foldl Table.erase (tuples.foldl put s) = tuples.foldl put (keys.foldl Table.erase s) := by
  induction tuples generalizing s with
  | nil => rfl
  | cons t rest ih =>
    have first := foldl_erase_put (s := s) (different t List.mem_cons_self)
    rw [List.foldl_cons, ih fun other member => different other (List.mem_cons_of_mem _ member),
      first, List.foldl_cons]

theorem performAll_deletes (keys : List TupleKey) :
    s.performAll (keys.map .delete) = keys.foldl Table.erase s := by
  rw [performAll, List.foldl_map]
  simp only [perform_delete]

/-- A body with different keys has the effect of its operations one after the other. -/
theorem apply_eq_performAll (distinct : b.keys.Nodup) :
    s.apply b = s.performAll b.operations := by
  obtain ⟨writes, -, apart⟩ := List.nodup_append.mp distinct
  have different : ∀ t ∈ b.writtenTuples.filter fun t => !s.contains t.key,
      t.key ∉ b.deletedKeys := by
    intro t fresh deleted
    exact apart t.key (List.mem_map_of_mem (List.mem_filter.mp fresh).1) t.key deleted rfl
  calc s.apply b
      = (b.writtenTuples.filter fun t => !s.contains t.key).foldl put
          (b.deletedKeys.foldl Table.erase s) := rfl
    _ = b.deletedKeys.foldl Table.erase
          ((b.writtenTuples.filter fun t => !s.contains t.key).foldl put s) :=
        (foldl_erase_foldl_put different).symm
    _ = (s.performAll (b.writtenTuples.map .write)).performAll (b.deletedKeys.map .delete) := by
        rw [performAll_writes writes, performAll_deletes]
    _ = s.performAll b.operations := (performAll_append _).symm

/-- A body without rejecting directives that was applied is not refused when it comes again, and
then changes nothing. -/
theorem apply_replay (distinct : b.keys.Nodup) (safe : b.isReplaySafe = true)
    (accepted : s.refusal? b = none) :
    (s.apply b).refusal? b = none ∧ (s.apply b).apply b = s.apply b := by
  have keys : (b.operations.map Operation.key).Nodup := b.keys_eq ▸ distinct
  rw [apply_eq_performAll distinct, apply_eq_performAll distinct]
  rw [refusal?_eq_findSome?, List.findSome?_eq_none_iff] at accepted ⊢
  constructor
  · -- A tuple that was written is there with the same condition as before or with its own.
    intro op member
    exact conflict?_again (WriteBody.isIgnored_of_isReplaySafe safe member) (accepted op member)
      (find?_performAll keys member)
  · exact performAll_eq_self fun op member => perform_eq_self (find?_performAll keys member)

end Store

end TupleClient
