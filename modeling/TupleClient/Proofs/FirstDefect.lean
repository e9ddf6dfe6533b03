import TupleClient.Proofs.Windows

/-!
# The first defect of a change set

Two lists of tuples make a change set exactly if every tuple is well formed, none that is to be
deleted has a condition, and no key is on both sides. Otherwise one defect is reported, and it is
the first: the writes come before the deletes, each side before both together, an earlier tuple
before a later one, and in one tuple the fields come in order, the ban on conditions last.

## Main definitions

* `Tuple.Has`, `Tuple.Defect.rank` — what is wrong with a tuple, and the order of such things
* `Tuple.FirstHas` — a tuple has a defect and none that comes before it
* `Side.Minds`, `Side.Passes` — a side minds a defect, and has nothing to object to a tuple
* `ChangeSet.IsFirst` — the first tuple for which a search finds something
* `ChangeSet.FirstOn`, `ChangeSet.FirstClash` — the first defective tuple of a side, and the first
  key that is on both sides

## Main results

* `Tuple.defect?_eq_some_iff`, `Tuple.deleteDefect?_eq_some_iff` — the defect found in one tuple
* `ChangeSet.firstDefect?_eq_some_iff`, `ChangeSet.firstClash?_eq_some_iff` — what the two searches
  find
* `Accepted.append_writes`, `Accepted.append_deletes` — a key may come again on its own side
* `ChangeSet.ofLists_verdict` — which lists make a change set, and what is reported of the others
-/

namespace TupleClient

/-! ## One tuple -/

namespace Tuple

/-- What is wrong with a tuple, whatever else is wrong with it. -/
def Has (t : Tuple) : Defect → Prop
  | .emptyUser => t.user = ""
  | .emptyRelation => t.relation = ""
  | .emptyObject => t.object = ""
  | .untypedObject => ':' ∉ t.object.toList
  | .unnamedCondition => ∃ c, t.condition = some c ∧ c.name = ""
  | .conditionOnDelete => t.condition ≠ none

/-- The place of a defect in the order in which defects are looked for. -/
def Defect.rank : Defect → ℕ
  | emptyUser => 0
  | emptyRelation => 1
  | emptyObject => 2
  | untypedObject => 3
  | unnamedCondition => 4
  | conditionOnDelete => 5

/-- A tuple has a defect and none that comes before it. -/
structure FirstHas (t : Tuple) (d : Defect) : Prop where
  has : t.Has d
  first : ∀ e, t.Has e → d.rank ≤ e.rank

variable {t : Tuple} {d e : Defect}

theorem Defect.rank_injective : Function.Injective rank := by
  intro d e same
  cases d <;> cases e <;> first | rfl | cases same

theorem FirstHas.unique (h : t.FirstHas d) (k : t.FirstHas e) : d = e :=
  Defect.rank_injective (Nat.le_antisymm (h.first e k.has) (k.first d h.has))

/-- A tuple without a malformation has at most a condition. -/
theorem eq_conditionOnDelete_of_wellFormed (sound : t.WellFormed) (has : t.Has d) :
    d = .conditionOnDelete := by
  cases d with
  | emptyUser => exact absurd has sound.user
  | emptyRelation => exact absurd has sound.relation
  | emptyObject => exact absurd has sound.object
  | untypedObject => exact absurd sound.typed has
  | unnamedCondition =>
    obtain ⟨c, present, unnamed⟩ := has
    exact absurd unnamed (sound.condition c present)
  | conditionOnDelete => rfl

/-- The defect that is found is there, and what comes before it is not. -/
theorem firstHas_of_defect? (found : t.defect? = some d) :
    t.FirstHas d ∧ d ≠ .conditionOnDelete := by
  -- One field after the other is seen to be sound, so the defects before the one found are absent.
  unfold defect? at found
  by_cases user : t.user = ""
  · obtain rfl : Defect.emptyUser = d := by simpa [user] using found
    exact ⟨⟨user, fun e _ => Nat.zero_le _⟩, by simp⟩
  by_cases relation : t.relation = ""
  · obtain rfl : Defect.emptyRelation = d := by simpa [user, relation] using found
    refine ⟨⟨relation, fun e has => ?_⟩, by simp⟩
    cases e <;> simp_all [Has, Defect.rank]
  by_cases object : t.object = ""
  · obtain rfl : Defect.emptyObject = d := by simpa [user, relation, object] using found
    refine ⟨⟨object, fun e has => ?_⟩, by simp⟩
    cases e <;> simp_all [Has, Defect.rank]
  by_cases typed : IsTyped t.object
  · cases given : t.condition with
    | none => simp [user, relation, object, typed, given] at found
    | some c =>
      by_cases unnamed : c.name = ""
      · obtain rfl : Defect.unnamedCondition = d := by
          simpa [user, relation, object, typed, given, unnamed] using found
        refine ⟨⟨⟨c, given, unnamed⟩, fun e has => ?_⟩, by simp⟩
        cases e <;> simp_all [Has, Defect.rank, IsTyped]
      · simp [user, relation, object, typed, given, unnamed] at found
  · obtain rfl : Defect.untypedObject = d := by simpa [user, relation, object, typed] using found
    refine ⟨⟨typed, fun e has => ?_⟩, by simp⟩
    cases e <;> simp_all [Has, Defect.rank]

/-- What is found in a tuple to be written is its first defect. A condition is none. -/
theorem defect?_eq_some_iff : t.defect? = some d ↔ t.FirstHas d ∧ d ≠ .conditionOnDelete := by
  constructor
  · exact firstHas_of_defect?
  · rintro ⟨first, malformed⟩
    cases found : t.defect? with
    | none =>
      have sound := t.defect?_eq_none_iff.mp found
      exact absurd (eq_conditionOnDelete_of_wellFormed sound first.has) malformed
    | some e => rw [first.unique (firstHas_of_defect? found).1]

/-- What is found in a tuple to be deleted is its first defect. A condition is the last one. -/
theorem deleteDefect?_eq_some_iff : t.deleteDefect? = some d ↔ t.FirstHas d := by
  unfold deleteDefect?
  cases found : t.defect? with
  | some e =>
    have first := (firstHas_of_defect? found).1
    constructor
    · rintro ⟨⟩
      exact first
    · exact fun h => congrArg some (first.unique h)
  | none =>
    have sound := t.defect?_eq_none_iff.mp found
    cases given : t.condition with
    | none =>
      refine ⟨by simp, fun h => ?_⟩
      obtain rfl := eq_conditionOnDelete_of_wellFormed sound h.has
      exact absurd given h.has
    | some c =>
      have first : t.FirstHas .conditionOnDelete := by
        refine ⟨by simp [Has, given], fun e has => ?_⟩
        obtain rfl := eq_conditionOnDelete_of_wellFormed sound has
        exact Nat.le_refl _
      constructor
      · rintro ⟨⟩
        exact first
      · exact fun h => congrArg some (first.unique h)

end Tuple

namespace Side

/-- A side minds malformed tuples, and the side of the deletes minds conditions as well. -/
def Minds (side : Side) (d : Tuple.Defect) : Prop := d = .conditionOnDelete → side = .delete

/-- A tuple has no defect that a side minds. -/
def Passes (side : Side) (t : Tuple) : Prop := ∀ d, side.Minds d → ¬ t.Has d

/-- The first defect that a side minds. -/
def defect? : Side → Tuple → Option Tuple.Defect
  | write => Tuple.defect?
  | delete => Tuple.deleteDefect?

variable {side : Side} {t : Tuple} {d : Tuple.Defect}

theorem defect?_eq_some_iff : side.defect? t = some d ↔ t.FirstHas d ∧ side.Minds d := by
  cases side with
  | write =>
    change t.defect? = some d ↔ _
    simp [Tuple.defect?_eq_some_iff, Minds]
  | delete =>
    change t.deleteDefect? = some d ↔ _
    simp [Tuple.deleteDefect?_eq_some_iff, Minds]

theorem defect?_eq_none_iff : side.defect? t = none ↔ side.Passes t := by
  constructor
  · intro none d minds has
    cases side with
    | write =>
      have sound := t.defect?_eq_none_iff.mp none
      cases minds (Tuple.eq_conditionOnDelete_of_wellFormed sound has)
    | delete =>
      obtain ⟨sound, unconditional⟩ := t.deleteDefect?_eq_none_iff.mp none
      obtain rfl := Tuple.eq_conditionOnDelete_of_wellFormed sound has
      exact has unconditional
  · intro passes
    cases found : side.defect? t with
    | none => rfl
    | some d =>
      obtain ⟨first, minds⟩ := defect?_eq_some_iff.mp found
      exact absurd first.has (passes d minds)

end Side

/-! ## Lists that are accepted -/

namespace Accepted

variable {writes deletes more : List Tuple}

/-- A key may come again on the side that it is on. -/
theorem append_writes (h : Accepted writes deletes)
    (again : ∀ t ∈ more, t.WellFormed ∧ ∃ u ∈ writes, u.key = t.key) :
    Accepted (writes ++ more) deletes where
  writes_wellFormed := List.forall_mem_append.mpr
    ⟨h.writes_wellFormed, fun t member => (again t member).1⟩
  deletes_wellFormed := h.deletes_wellFormed
  deletes_unconditional := h.deletes_unconditional
  disjoint := List.forall_mem_append.mpr ⟨h.disjoint, fun t member d deleted => by
    obtain ⟨u, written, same⟩ := (again t member).2
    exact same ▸ h.disjoint u written d deleted⟩

theorem append_deletes (h : Accepted writes deletes)
    (again : ∀ t ∈ more, t.WellFormed ∧ t.condition = none ∧ ∃ u ∈ deletes, u.key = t.key) :
    Accepted writes (deletes ++ more) where
  writes_wellFormed := h.writes_wellFormed
  deletes_wellFormed := List.forall_mem_append.mpr
    ⟨h.deletes_wellFormed, fun t member => (again t member).1⟩
  deletes_unconditional := List.forall_mem_append.mpr
    ⟨h.deletes_unconditional, fun t member => (again t member).2.1⟩
  disjoint w written := List.forall_mem_append.mpr ⟨h.disjoint w written, fun t member => by
    obtain ⟨u, deleted, same⟩ := (again t member).2.2
    exact same ▸ h.disjoint w written u deleted⟩

end Accepted

/-! ## The first of several -/

namespace ChangeSet

/-- The first tuple for which `f` has a value stands at a position. -/
structure IsFirst {β : Type} (f : Tuple → Option β) (tuples : List Tuple) (i : ℕ) (b : β) :
    Prop where
  here : ∃ t, tuples[i]? = some t ∧ f t = some b
  before : ∀ j < i, ∀ t, tuples[j]? = some t → f t = none

variable {β : Type} {f : Tuple → Option β} {t : Tuple} {rest tuples : List Tuple} {i : ℕ} {b : β}

theorem isFirst_cons_zero : IsFirst f (t :: rest) 0 b ↔ f t = some b :=
  ⟨fun h => by simpa using h.here, fun h => ⟨⟨t, rfl, h⟩, by simp⟩⟩

theorem isFirst_cons_succ :
    IsFirst f (t :: rest) (i + 1) b ↔ f t = none ∧ IsFirst f rest i b := by
  constructor
  · intro h
    refine ⟨h.before 0 (Nat.succ_pos i) t rfl, by simpa using h.here, fun j earlier => ?_⟩
    simpa using h.before (j + 1) (Nat.succ_lt_succ earlier)
  · rintro ⟨none, h⟩
    refine ⟨by simpa using h.here, fun j earlier u found => ?_⟩
    cases j with
    | zero =>
      obtain rfl : t = u := by simpa using found
      exact none
    | succ j => exact h.before j (Nat.lt_of_succ_lt_succ earlier) u (by simpa using found)

theorem firstDefect?_eq_some_iff {defect? : Tuple → Option Tuple.Defect} {start : ℕ}
    {d : Tuple.Defect} :
    firstDefect? defect? start tuples = some (i, d) ↔
      ∃ k, i = start + k ∧ IsFirst defect? tuples k d := by
  induction tuples generalizing start with
  | nil => simpa [firstDefect?] using fun k _ h => by simpa using h.here
  | cons t rest ih =>
    -- The position is that of the head, or one more than a position in the rest.
    rw [firstDefect?, ← Nat.or_exists_add_one]
    simp only [isFirst_cons_zero, isFirst_cons_succ]
    cases defect? t with
    | none => simp [ih, Nat.add_assoc, Nat.add_comm 1]
    | some e => simp [eq_comm]

theorem firstClash?_eq_some_iff {writes deletes : List Tuple} {start : ℕ} {key : TupleKey}
    {w d : ℕ} :
    firstClash? writes start deletes = some (key, w, d) ↔
      ∃ k, d = start + k ∧
        IsFirst (fun t => (position? t.key writes).map fun w => (t.key, w)) deletes k (key, w) := by
  induction deletes generalizing start with
  | nil => simpa [firstClash?] using fun k _ h => by simpa using h.here
  | cons t rest ih =>
    rw [firstClash?, ← Nat.or_exists_add_one]
    simp only [isFirst_cons_zero, isFirst_cons_succ]
    cases position? t.key writes with
    | none => simp [ih, Nat.add_assoc, Nat.add_comm 1]
    | some p =>
      simp only [Option.some.injEq, Prod.mk.injEq, Option.map_some,
        reduceCtorEq, false_and, and_false, exists_const, or_false, Nat.add_zero]
      constructor
      · rintro ⟨key, write, delete⟩
        exact ⟨delete.symm, key, write⟩
      · rintro ⟨delete, key, write⟩
        exact ⟨key, write, delete.symm⟩

theorem position?_eq_some_iff {key : TupleKey} {w : ℕ} :
    position? key tuples = some w ↔
      (∃ t, tuples[w]? = some t ∧ t.key = key) ∧
        ∀ j < w, ∀ u, tuples[j]? = some u → u.key ≠ key := by
  rw [position?, List.findIdx?_eq_some_iff_getElem]
  constructor
  · rintro ⟨inside, same, others⟩
    refine ⟨⟨_, List.getElem?_eq_getElem inside, by simpa using same⟩, fun j earlier u found => ?_⟩
    obtain ⟨-, rfl⟩ := List.getElem?_eq_some_iff.mp found
    simpa using others j earlier
  · rintro ⟨⟨t, found, same⟩, others⟩
    obtain ⟨inside, rfl⟩ := List.getElem?_eq_some_iff.mp found
    refine ⟨inside, by simpa using same, fun j earlier => ?_⟩
    simpa using others j earlier _ (List.getElem?_eq_getElem (Nat.lt_trans earlier inside))

theorem position?_eq_none_iff {key : TupleKey} :
    position? key tuples = none ↔ ∀ u ∈ tuples, u.key ≠ key := by
  simp [position?, List.findIdx?_eq_none_iff]

/-! ## Two lists -/

/-- The first tuple of a side with a defect that the side minds has a position and a first
defect. -/
structure FirstOn (side : Side) (tuples : List Tuple) (i : ℕ) (d : Tuple.Defect) : Prop where
  here : ∃ t, tuples[i]? = some t ∧ t.FirstHas d ∧ side.Minds d
  before : ∀ j < i, ∀ t, tuples[j]? = some t → side.Passes t

/-- The first key of the deletes that is written as well, with its first position among the writes
and its first position among the deletes. -/
structure FirstClash (writes deletes : List Tuple) (key : TupleKey) (w d : ℕ) : Prop where
  deleted : ∃ t, deletes[d]? = some t ∧ t.key = key
  written : ∃ t, writes[w]? = some t ∧ t.key = key
  firstDelete : ∀ j < d, ∀ t, deletes[j]? = some t → ∀ u ∈ writes, u.key ≠ t.key
  firstWrite : ∀ j < w, ∀ u, writes[j]? = some u → u.key ≠ key

theorem firstDefect?_eq_some_iff_firstOn {side : Side} {d : Tuple.Defect} :
    firstDefect? side.defect? 0 tuples = some (i, d) ↔ FirstOn side tuples i d := by
  simp only [firstDefect?_eq_some_iff, Nat.zero_add, exists_eq_left']
  constructor
  · rintro ⟨⟨t, found, defective⟩, before⟩
    exact ⟨⟨t, found, Side.defect?_eq_some_iff.mp defective⟩, fun j earlier u there =>
      Side.defect?_eq_none_iff.mp (before j earlier u there)⟩
  · rintro ⟨⟨t, found, first⟩, before⟩
    exact ⟨⟨t, found, Side.defect?_eq_some_iff.mpr first⟩, fun j earlier u there =>
      Side.defect?_eq_none_iff.mpr (before j earlier u there)⟩

theorem firstClash?_eq_some_iff_firstClash {writes deletes : List Tuple} {key : TupleKey}
    {w d : ℕ} :
    firstClash? writes 0 deletes = some (key, w, d) ↔ FirstClash writes deletes key w d := by
  simp only [firstClash?_eq_some_iff, Nat.zero_add, exists_eq_left']
  constructor
  · rintro ⟨⟨t, found, written⟩, before⟩
    obtain ⟨p, there, same⟩ := Option.map_eq_some_iff.mp written
    obtain ⟨rfl, rfl⟩ := Prod.mk.inj same
    obtain ⟨present, first⟩ := position?_eq_some_iff.mp there
    refine ⟨⟨t, found, rfl⟩, present, fun j earlier u earlierFound => ?_, first⟩
    exact position?_eq_none_iff.mp (Option.map_eq_none_iff.mp (before j earlier u earlierFound))
  · rintro ⟨⟨t, found, rfl⟩, present, before, first⟩
    refine ⟨⟨t, found, ?_⟩, fun j earlier u earlierFound => ?_⟩
    · rw [position?_eq_some_iff.mpr ⟨present, first⟩, Option.map_some]
    · rw [position?_eq_none_iff.mpr (before j earlier u earlierFound), Option.map_none]

variable {writes deletes : List Tuple}

/-- Three searches are made one after the other, each only if those before it find nothing. -/
theorem inputDefect?_eq :
    inputDefect? writes deletes =
      match firstDefect? Side.write.defect? 0 writes with
      | some (i, d) => some (.invalidTuple .write i d)
      | none =>
        match firstDefect? Side.delete.defect? 0 deletes with
        | some (i, d) => some (.invalidTuple .delete i d)
        | none =>
          match firstClash? writes 0 deletes with
          | some (key, w, d) => some (.ambiguousTuple key w d)
          | none => none := rfl

theorem ofLists_eq_error_iff {e : InputError} :
    ofLists writes deletes = .error e ↔ inputDefect? writes deletes = some e := by
  unfold ofLists
  split
  · next found => simp [found]
  · next none => simp [none]

/-- A change set keeps its two lists as they were given. -/
theorem ofLists_keeps {cs : ChangeSet} (made : ofLists writes deletes = .ok cs) :
    cs.writes = writes ∧ cs.deletes = deletes := by
  unfold ofLists at made
  split at made
  · simp at made
  · obtain rfl := Except.ok.inj made
    exact ⟨rfl, rfl⟩

/-- Nothing is reported of exactly the accepted lists. -/
theorem exists_ofLists_eq_ok_iff :
    (∃ cs, ofLists writes deletes = .ok cs) ↔ Accepted writes deletes := by
  rw [← inputDefect?_eq_none_iff]
  unfold ofLists
  split
  · next found => simp [found]
  · next none => simp [none]

theorem accepted_iff :
    Accepted writes deletes ↔
      (∀ t ∈ writes ++ deletes, t.user ≠ "" ∧ t.relation ≠ "" ∧ t.object ≠ "" ∧
        ':' ∈ t.object.toList ∧ ∀ c, t.condition = some c → c.name ≠ "") ∧
      (∀ t ∈ deletes, t.condition = none) ∧
      ∀ w ∈ writes, ∀ d ∈ deletes,
        ¬ (w.user = d.user ∧ w.relation = d.relation ∧ w.object = d.object) := by
  have wellFormed (t : Tuple) : t.WellFormed ↔ t.user ≠ "" ∧ t.relation ≠ "" ∧ t.object ≠ "" ∧
      ':' ∈ t.object.toList ∧ ∀ c, t.condition = some c → c.name ≠ "" :=
    ⟨fun h => ⟨h.user, h.relation, h.object, h.typed, h.condition⟩,
      fun ⟨user, relation, object, typed, condition⟩ => ⟨user, relation, object, typed, condition⟩⟩
  have sameKey (w d : Tuple) : w.key = d.key ↔
      w.user = d.user ∧ w.relation = d.relation ∧ w.object = d.object := by
    rw [← TupleKey.mk.injEq]
  simp only [List.forall_mem_append, ← wellFormed, ← sameKey]
  exact ⟨fun h =>
      ⟨⟨h.writes_wellFormed, h.deletes_wellFormed⟩, h.deletes_unconditional, h.disjoint⟩,
    fun ⟨⟨written, deleted⟩, unconditional, disjoint⟩ =>
      ⟨written, deleted, unconditional, disjoint⟩⟩

/-- Which lists make a change set, and what is reported of the others: the first defective write, or
else the first defective delete, or else the first delete whose key is written. -/
theorem ofLists_verdict (writes deletes : List Tuple) :
    ((∃ cs, ofLists writes deletes = .ok cs) ↔
      (∀ t ∈ writes ++ deletes, t.user ≠ "" ∧ t.relation ≠ "" ∧ t.object ≠ "" ∧
        ':' ∈ t.object.toList ∧ ∀ c, t.condition = some c → c.name ≠ "") ∧
      (∀ t ∈ deletes, t.condition = none) ∧
      ∀ w ∈ writes, ∀ d ∈ deletes,
        ¬ (w.user = d.user ∧ w.relation = d.relation ∧ w.object = d.object)) ∧
    (∀ cs, ofLists writes deletes = .ok cs → cs.writes = writes ∧ cs.deletes = deletes ∧
      (∀ more, (∀ t ∈ more, t.WellFormed ∧ ∃ u ∈ writes, u.key = t.key) →
        ∃ cs', ofLists (writes ++ more) deletes = .ok cs') ∧
      ∀ more, (∀ t ∈ more, t.WellFormed ∧ t.condition = none ∧ ∃ u ∈ deletes, u.key = t.key) →
        ∃ cs', ofLists writes (deletes ++ more) = .ok cs') ∧
    (∀ i d, ofLists writes deletes = .error (.invalidTuple .write i d) ↔
      FirstOn .write writes i d) ∧
    (∀ i d, ofLists writes deletes = .error (.invalidTuple .delete i d) ↔
      (∀ t ∈ writes, Side.write.Passes t) ∧ FirstOn .delete deletes i d) ∧
    (∀ key w d, ofLists writes deletes = .error (.ambiguousTuple key w d) ↔
      (∀ t ∈ writes, Side.write.Passes t) ∧ (∀ t ∈ deletes, Side.delete.Passes t) ∧
        FirstClash writes deletes key w d) ∧
    ofLists writes deletes ≠ .error .zeroLimit := by
  have passing (side : Side) (tuples : List Tuple) :
      firstDefect? side.defect? 0 tuples = none ↔ ∀ t ∈ tuples, side.Passes t := by
    simp only [firstDefect?_eq_none_iff, Side.defect?_eq_none_iff]
  refine ⟨exists_ofLists_eq_ok_iff.trans accepted_iff, fun cs made => ?_, ?_⟩
  · have accepted := exists_ofLists_eq_ok_iff.mp ⟨cs, made⟩
    obtain ⟨written, deleted⟩ := ofLists_keeps made
    exact ⟨written, deleted,
      fun more again => exists_ofLists_eq_ok_iff.mpr (accepted.append_writes again),
      fun more again => exists_ofLists_eq_ok_iff.mpr (accepted.append_deletes again)⟩
  · simp only [ofLists_eq_error_iff, Ne, inputDefect?_eq, ← passing,
      ← firstClash?_eq_some_iff_firstClash, ← firstDefect?_eq_some_iff_firstOn]
    cases firstDefect? Side.write.defect? 0 writes with
    | some found => simp [Prod.ext_iff]
    | none =>
      cases firstDefect? Side.delete.defect? 0 deletes with
      | some found => simp [Prod.ext_iff]
      | none => cases firstClash? writes 0 deletes <;> simp [Prod.ext_iff]

/-- Of two writes and two deletes that clash, the first of each are reported. Without the deletes
the lists are accepted although a key is written twice. -/
theorem ofLists_verdict_clash :
    let guarded : Tuple := { reader "bob" with condition := some ⟨"inside", []⟩ }
    let writes := [reader "anne", guarded, reader "bob"]
    let deletes := [reader "carl", reader "bob", reader "anne", reader "bob"]
    ofLists writes deletes = .error (.ambiguousTuple (reader "bob").key 1 1) ∧
      (∀ t ∈ [guarded], t.WellFormed ∧ ∃ u ∈ [reader "anne", reader "bob"], u.key = t.key) ∧
      ∃ cs, ofLists ([reader "anne", reader "bob"] ++ [guarded]) [] = .ok cs := by
  intro guarded writes deletes
  have written : ∀ t ∈ writes, Side.write.Passes t := by
    have sound : ∀ t ∈ writes, Side.write.defect? t = none := by decide
    exact fun t member => Side.defect?_eq_none_iff.mp (sound t member)
  have deleted : ∀ t ∈ deletes, Side.delete.Passes t := by
    have sound : ∀ t ∈ deletes, Side.delete.defect? t = none := by decide
    exact fun t member => Side.defect?_eq_none_iff.mp (sound t member)
  have clash : FirstClash writes deletes (reader "bob").key 1 1 :=
    firstClash?_eq_some_iff_firstClash.mp (by decide)
  have again : ∀ t ∈ [guarded], t.WellFormed ∧ ∃ u ∈ [reader "anne", reader "bob"],
      u.key = t.key := by
    simp only [List.mem_singleton, forall_eq]
    exact ⟨guarded.defect?_eq_none_iff.mp (by decide), reader "bob", by simp, rfl⟩
  refine ⟨?_, again, ?_⟩
  · obtain ⟨-, -, -, -, ambiguous, -⟩ := ofLists_verdict writes deletes
    exact (ambiguous _ 1 1).mpr ⟨written, deleted, clash⟩
  · obtain ⟨cs, made⟩ := exists_ofLists_eq_ok_iff.mpr
      ((inputDefect?_eq_none_iff [reader "anne", reader "bob"] []).mp (by decide))
    obtain ⟨-, kept, -⟩ := ofLists_verdict [reader "anne", reader "bob"] []
    obtain ⟨-, -, more, -⟩ := kept cs made
    exact more _ again

end ChangeSet

end TupleClient
