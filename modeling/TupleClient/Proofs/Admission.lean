import TupleClient.Proofs.Operations
import TupleClient.Proofs.Windows

/-!
# Operations judged together

A window of operations is judged as a whole before any of them is done. It is refused exactly if one
of its operations is bad: its key has occurred before in the window, or it is in conflict with what
the operations before it would leave if they were done one at a time. A window that is not refused
has the effect of its operations one at a time.

## Main definitions

* `Store.performTogether` — what becomes of operations that are judged together
* `Store.Clashes`, `Store.Repeats` — what can be wrong with one of them
* `ChunkLimit.IsBad` — what can be wrong with an operation in a sequence that is cut into windows

## Main results

* `Store.performTogether_eq_ok`, `Store.performTogether_eq_error` — operations together against one
  at a time
* `ChunkLimit.window_accepted`, `ChunkLimit.window_refused` — the same for one window of a longer
  sequence
-/

namespace TupleClient

/-! ## Operations judged together -/

namespace Store

variable {s : Store} {policy : ConflictPolicy} {ops : List Operation}

/-- An operation is in conflict with a store: a write meets its key with another condition, or meets
its key and the policy rejects that, or a delete misses its key and the policy rejects that. -/
def Conflicts (policy : ConflictPolicy) (s : Store) : Operation → Prop
  | .write t => ∃ condition, s.find? t.key = some condition ∧
      (Condition.sameOption condition t.condition = false ∨ policy.onDuplicateWrite = .error)
  | .delete key => s.find? key = none ∧ policy.onMissingDelete = .error

/-- The operation at a position is in conflict with what those before it have left. -/
def Clashes (policy : ConflictPolicy) (s : Store) (ops : List Operation) (q : ℕ) : Prop :=
  ∃ op, ops[q]? = some op ∧ (s.performAll (ops.take q)).Conflicts policy op

/-- The key at a position has occurred before. -/
def Repeats (ops : List Operation) (q : ℕ) : Prop :=
  ∃ op, ops[q]? = some op ∧ op.key ∈ (ops.take q).map Operation.key

/-- What becomes of operations that are judged together: they are refused for the first key that
occurs again, or else for the first conflict, or else they are all done. -/
def performTogether (policy : ConflictPolicy) (s : Store) (ops : List Operation) :
    Except Refusal Store :=
  match repeatedKey? [] (ops.map Operation.key) with
  | some key => .error (.repeatedKey key)
  | none =>
    match ops.findSome? (s.conflict? policy) with
    | some e => .error e
    | none => .ok (s.performAll ops)

theorem conflict?_eq_none_iff {op : Operation} :
    s.conflict? policy op = none ↔ ¬ s.Conflicts policy op := by
  cases op with
  | write t =>
    cases found : s.find? t.key with
    | none => simp [conflict?, writeRefusal?, Conflicts, found]
    | some condition =>
      cases same : Condition.sameOption condition t.condition <;>
        cases directive : policy.onDuplicateWrite <;>
          simp [conflict?, writeRefusal?, Conflicts, found, same, directive]
  | delete key =>
    cases found : s.find? key <;> cases directive : policy.onMissingDelete <;>
      simp [conflict?, deleteRefusal?, Conflicts, Table.contains, found, directive]

theorem not_repeats (distinct : (ops.map Operation.key).Nodup) (q : ℕ) : ¬ Repeats ops q := by
  rintro ⟨op, found, before⟩
  obtain ⟨inside, rfl⟩ := List.getElem?_eq_some_iff.mp found
  have parts : ops.take q ++ ops[q] :: ops.drop (q + 1) = ops := by simp
  rw [← parts, List.map_append, List.nodup_append] at distinct
  exact distinct.2.2 _ before _ (List.mem_map_of_mem List.mem_cons_self) rfl

variable (s policy) in
/-- Where no key occurs again, an operation meets what it would meet if it came first. -/
theorem conflict?_performAll_take {q : ℕ} {op : Operation} (found : ops[q]? = some op)
    (fresh : ¬ Repeats ops q) :
    (s.performAll (ops.take q)).conflict? policy op = s.conflict? policy op :=
  conflict?_congr (find?_performAll_of_notMem fun before => fresh ⟨op, found, before⟩)

/-- Operations that are accepted together are done, and nothing is wrong with any of them. -/
theorem performTogether_eq_ok {s' : Store} (accepted : s.performTogether policy ops = .ok s') :
    s' = s.performAll ops ∧ ∀ q, ¬ Repeats ops q ∧ ¬ s.Clashes policy ops q := by
  unfold performTogether at accepted
  split at accepted; · simp at accepted
  next unrepeated =>
  split at accepted; · simp at accepted
  next free =>
  have fresh := not_repeats (repeatedKey?_eq_none_iff.mp unrepeated).1
  refine ⟨(Except.ok.inj accepted).symm, fun q => ⟨fresh q, ?_⟩⟩
  rintro ⟨op, found, conflicts⟩
  refine conflict?_eq_none_iff.mp ?_ conflicts
  rw [conflict?_performAll_take s policy found (fresh q)]
  exact List.findSome?_eq_none_iff.mp free op (List.mem_of_getElem? found)

/-- Operations that are refused together are refused for the first key that occurs again, or else
for the first operation that clashes. -/
theorem performTogether_eq_error {e : Refusal} (refused : s.performTogether policy ops = .error e) :
    (∃ q op, ops[q]? = some op ∧ Repeats ops q ∧ (∀ p < q, ¬ Repeats ops p) ∧
        e = .repeatedKey op.key) ∨
      ((∀ q, ¬ Repeats ops q) ∧
        ∃ q op, ops[q]? = some op ∧ s.Clashes policy ops q ∧
          (∀ p < q, ¬ s.Clashes policy ops p) ∧
          (s.performAll (ops.take q)).conflict? policy op = some e) := by
  unfold performTogether at refused
  split at refused
  · next key repeated =>
    obtain ⟨q, found, before, least⟩ := repeatedKey?_eq_some repeated
    simp only [List.getElem?_map, Option.map_eq_some_iff] at found
    obtain ⟨op, found, rfl⟩ := found
    have before : op.key ∈ (ops.map Operation.key).take q := before.resolve_left List.not_mem_nil
    refine .inl ⟨q, op, found, ⟨op, found, by rwa [List.map_take]⟩, ?_,
      (Except.error.inj refused).symm⟩
    rintro p earlier ⟨other, standing, again⟩
    have fresh := (least p earlier other.key (by simp [standing])).2
    exact fresh (by rwa [← List.map_take])
  · next unrepeated =>
    have fresh := not_repeats (repeatedKey?_eq_none_iff.mp unrepeated).1
    split at refused
    · next other conflict =>
      obtain rfl := Except.error.inj refused
      obtain ⟨before, op, after, rfl, meets, free⟩ := List.findSome?_eq_some_iff.mp conflict
      have found : (before ++ op :: after)[before.length]? = some op := by simp
      have here := conflict?_performAll_take s policy found (fresh _)
      refine .inr ⟨fresh, before.length, op, found, ⟨op, found, ?_⟩, ?_, here.trans meets⟩
      · by_contra conflictFree
        rw [← conflict?_eq_none_iff, here, meets] at conflictFree
        simp at conflictFree
      · rintro p earlier ⟨first, standing, conflicts⟩
        refine conflict?_eq_none_iff.mp ?_ conflicts
        rw [conflict?_performAll_take s policy standing (fresh p)]
        rw [List.getElem?_append_left earlier] at standing
        exact free first (List.mem_of_getElem? standing)
    · simp at refused

end Store

/-! ## Windows of operations -/

namespace ChunkLimit

open Store (Repeats)

variable (limit : ChunkLimit) (policy : ConflictPolicy) (store : Store) (ops : List Operation)

/-- The operations of one window. -/
def window (i : ℕ) : List Operation := (ops.drop (i * limit.tuples)).take limit.tuples

/-- The key at a position has occurred before in the same window. -/
def RepeatsInWindow (p : ℕ) : Prop :=
  ∃ op, ops[p]? = some op ∧ ∃ q < p, q / limit.tuples = p / limit.tuples ∧
    ∃ other, ops[q]? = some other ∧ other.key = op.key

/-- What keeps the operation at a position from being done: its key has occurred before in its
window, or it is in conflict with what all operations before it have left. -/
def IsBad (p : ℕ) : Prop := limit.RepeatsInWindow ops p ∨ store.Clashes policy ops p

/-- What the refusal of the window of position `p` says: the first key of the window that occurs
again, or else the conflict of the operation at `p`. -/
def Explains (e : Refusal) (p : ℕ) : Prop :=
  (∃ r op, r / limit.tuples = p / limit.tuples ∧ ops[r]? = some op ∧
      limit.RepeatsInWindow ops r ∧
      (∀ q < r, q / limit.tuples = p / limit.tuples → ¬ limit.RepeatsInWindow ops q) ∧
      e = .repeatedKey op.key) ∨
    ((∀ r, r / limit.tuples = p / limit.tuples → ¬ limit.RepeatsInWindow ops r) ∧
      ∃ op, ops[p]? = some op ∧ (store.performAll (ops.take p)).conflict? policy op = some e)

variable {limit policy store ops} {i q : ℕ}

theorem add_div_tuples (inside : q < limit.tuples) : (i * limit.tuples + q) / limit.tuples = i := by
  rw [Nat.mul_comm, Nat.mul_add_div limit.positive, Nat.div_eq_of_lt inside, Nat.add_zero]

theorem IsBad.lt_length {p : ℕ} (bad : limit.IsBad policy store ops p) : p < ops.length := by
  rcases bad with ⟨op, found, -⟩ | ⟨op, found, -⟩
  · exact (List.getElem?_eq_some_iff.mp found).1
  · exact (List.getElem?_eq_some_iff.mp found).1

/-- A position is one of those of its window. -/
theorem eq_add_of_div_eq {p : ℕ} (h : p / limit.tuples = i) :
    ∃ q < limit.tuples, p = i * limit.tuples + q :=
  ⟨p % limit.tuples, Nat.mod_lt p limit.positive, by rw [← h, Nat.div_add_mod']⟩

theorem getElem?_window (inside : q < limit.tuples) :
    (limit.window ops i)[q]? = ops[i * limit.tuples + q]? := by
  rw [window, List.getElem?_take_of_lt inside, List.getElem?_drop]

theorem length_window_le : (limit.window ops i).length ≤ limit.tuples := List.length_take_le _ _

theorem take_add_window (inside : q ≤ limit.tuples) :
    ops.take (i * limit.tuples + q) =
      ops.take (i * limit.tuples) ++ (limit.window ops i).take q := by
  rw [List.take_add, window, List.take_take, Nat.min_eq_left inside]

theorem performAll_take_add (inside : q ≤ limit.tuples) :
    store.performAll (ops.take (i * limit.tuples + q)) =
      (store.performAll (ops.take (i * limit.tuples))).performAll
        ((limit.window ops i).take q) := by
  rw [take_add_window inside, Store.performAll_append]

theorem clashes_window_iff (inside : q < limit.tuples) :
    (store.performAll (ops.take (i * limit.tuples))).Clashes policy (limit.window ops i) q ↔
      store.Clashes policy ops (i * limit.tuples + q) := by
  rw [Store.Clashes, Store.Clashes, getElem?_window inside, performAll_take_add inside.le]

theorem repeats_window_iff (inside : q < limit.tuples) :
    Repeats (limit.window ops i) q ↔ limit.RepeatsInWindow ops (i * limit.tuples + q) := by
  unfold Repeats RepeatsInWindow
  rw [getElem?_window inside, add_div_tuples inside]
  refine exists_congr fun op => and_congr_right fun _ => ?_
  constructor
  · intro before
    obtain ⟨other, member, same⟩ := List.mem_map.mp before
    obtain ⟨r, standing⟩ := List.mem_iff_getElem?.mp member
    rw [List.getElem?_take] at standing
    split at standing
    · next earlier =>
      rw [getElem?_window (earlier.trans inside)] at standing
      exact ⟨i * limit.tuples + r, by omega, add_div_tuples (earlier.trans inside), other,
        standing, same⟩
    · simp at standing
  · rintro ⟨p, earlier, here, other, standing, same⟩
    obtain ⟨r, within, rfl⟩ := eq_add_of_div_eq here
    have earlier : r < q := by omega
    have member : (limit.window ops i)[r]? = some other := by rwa [getElem?_window within]
    rw [← same]
    refine List.mem_map_of_mem (List.mem_of_getElem? (i := r) ?_)
    rwa [List.getElem?_take_of_lt earlier]

/-- Nothing is wrong with a window that is accepted, and all of it is done. -/
theorem window_accepted {s' : Store}
    (accepted : (store.performAll (ops.take (i * limit.tuples))).performTogether policy
      (limit.window ops i) = .ok s') :
    s' = store.performAll (ops.take ((i + 1) * limit.tuples)) ∧
      ∀ p, p / limit.tuples = i → ¬ limit.IsBad policy store ops p := by
  obtain ⟨rfl, free⟩ := Store.performTogether_eq_ok accepted
  constructor
  · rw [Nat.succ_mul, performAll_take_add le_rfl, List.take_of_length_le length_window_le]
  · rintro p here (repeats | clashes)
    · obtain ⟨q, inside, rfl⟩ := eq_add_of_div_eq here
      exact (free q).1 ((repeats_window_iff inside).mpr repeats)
    · obtain ⟨q, inside, rfl⟩ := eq_add_of_div_eq here
      exact (free q).2 ((clashes_window_iff inside).mpr clashes)

/-- If a window is refused and nothing is wrong before it, the first bad operation is in it, and the
refusal says what is wrong. -/
theorem window_refused {e : Refusal}
    (refused : (store.performAll (ops.take (i * limit.tuples))).performTogether policy
      (limit.window ops i) = .error e)
    (free : ∀ p < i * limit.tuples, ¬ limit.IsBad policy store ops p) :
    ∃ p, p / limit.tuples = i ∧ limit.IsBad policy store ops p ∧
      (∀ q < p, ¬ limit.IsBad policy store ops q) ∧ limit.Explains policy store ops e p := by
  have short {q : ℕ} {op : Operation} (found : (limit.window ops i)[q]? = some op) :
      q < limit.tuples :=
    (List.getElem?_eq_some_iff.mp found).1.trans_le length_window_le
  rcases Store.performTogether_eq_error refused with
    ⟨r, op, found, repeats, least, rfl⟩ | ⟨fresh, q, op, found, clashes, least, conflict⟩
  · have inside := short found
    have repeats := (repeats_window_iff inside).mp repeats
    -- A conflict may stand before the key that is reported: the first bad position is sought anew.
    obtain ⟨p, bad, first⟩ : ∃ p, limit.IsBad policy store ops p ∧
        ∀ q < p, ¬ limit.IsBad policy store ops q := by
      classical
      have someBad : ∃ p, limit.IsBad policy store ops p := ⟨_, .inl repeats⟩
      exact ⟨Nat.find someBad, Nat.find_spec someBad, fun q => Nat.find_min someBad⟩
    obtain ⟨t, rfl⟩ := Nat.exists_eq_add_of_le (not_lt.mp fun before => free p before bad)
    have notLater : ¬ i * limit.tuples + r < i * limit.tuples + t := fun later =>
      first _ later (.inl repeats)
    have here : (i * limit.tuples + t) / limit.tuples = i := add_div_tuples (by omega)
    refine ⟨_, here, bad, first, .inl ⟨i * limit.tuples + r, op, ?_, ?_, repeats, ?_, rfl⟩⟩
    · rw [here, add_div_tuples inside]
    · rwa [← getElem?_window inside]
    · intro q earlier same again
      rw [here] at same
      obtain ⟨u, within, rfl⟩ := eq_add_of_div_eq same
      exact least u (by omega) ((repeats_window_iff within).mpr again)
  · have inside := short found
    have unrepeated {u : ℕ} (within : u < limit.tuples) :
        ¬ limit.RepeatsInWindow ops (i * limit.tuples + u) :=
      fun again => fresh u ((repeats_window_iff within).mpr again)
    refine ⟨i * limit.tuples + q, add_div_tuples inside,
      .inr ((clashes_window_iff inside).mp clashes), ?_, .inr ⟨?_, op, ?_, ?_⟩⟩
    · intro p earlier bad
      obtain ⟨u, rfl⟩ := Nat.exists_eq_add_of_le (not_lt.mp fun before => free p before bad)
      have within : u < limit.tuples := by omega
      rcases bad with again | clashesBefore
      · exact unrepeated within again
      · exact least u (by omega) ((clashes_window_iff within).mpr clashesBefore)
    · intro r same again
      rw [add_div_tuples inside] at same
      obtain ⟨u, within, rfl⟩ := eq_add_of_div_eq same
      exact unrepeated within again
    · rwa [← getElem?_window inside]
    · rwa [performAll_take_add inside.le]

end ChunkLimit

end TupleClient
