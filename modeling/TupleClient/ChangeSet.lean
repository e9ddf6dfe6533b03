import TupleClient.Tuple.Basic

/-!
# Change sets

A change set is what one transaction is to do: tuples to write and tuples to delete. It is accepted
if every tuple is well formed, no tuple to be deleted has a condition, and no key is on both sides.
A key may occur several times on one side; that is for the service to judge.

## Main definitions

* `Accepted` — what a change set promises of its two lists
* `ChangeSet` — two lists that keep the promise
* `InputError` — why an input of the client is refused
* `ChangeSet.ofLists` — the change set of two lists, or their first defect

## Main results

* `ChangeSet.inputDefect?_eq_none_iff` — exactly the accepted lists have no defect
-/

namespace TupleClient

/-- The side of a change set that a tuple is on. -/
inductive Side where
  | write
  | delete
deriving DecidableEq

/-- The name of a side. -/
def Side.name : Side → String
  | write => "write"
  | delete => "delete"

/-- Why an input is refused before anything is sent. -/
inductive InputError where
  /-- The tuple at a position of one side has a defect. -/
  | invalidTuple (side : Side) (index : Nat) (defect : Tuple.Defect)
  /-- A key is on both sides. -/
  | ambiguousTuple (key : TupleKey) (writeIndex deleteIndex : Nat)
  /-- A chunk would hold no tuple. -/
  | zeroLimit
deriving DecidableEq

/-- The text of a refusal. -/
def InputError.message : InputError → String
  | invalidTuple side index defect =>
    "invalid " ++ side.name ++ " tuple at index " ++ toString index ++ ": " ++ defect.message
  | ambiguousTuple key writeIndex deleteIndex =>
    "tuple " ++ key.render ++ " appears in both writes (index " ++ toString writeIndex ++
      ") and deletes (index " ++ toString deleteIndex ++ ")"
  | zeroLimit => "max tuples per call must be greater than 0"

/-- What is promised of the tuples to write and the tuples to delete. -/
structure Accepted (writes deletes : List Tuple) : Prop where
  writes_wellFormed : ∀ t ∈ writes, t.WellFormed
  deletes_wellFormed : ∀ t ∈ deletes, t.WellFormed
  deletes_unconditional : ∀ t ∈ deletes, t.condition = none
  disjoint : ∀ w ∈ writes, ∀ d ∈ deletes, w.key ≠ d.key

/-- The changes of one transaction. -/
structure ChangeSet where
  writes : List Tuple
  deletes : List Tuple
  accepted : Accepted writes deletes

namespace ChangeSet

/-- The first defect of a list and its position, counted from `start`. -/
def firstDefect? (defect? : Tuple → Option Tuple.Defect) (start : Nat) :
    List Tuple → Option (Nat × Tuple.Defect)
  | [] => none
  | t :: rest =>
    match defect? t with
    | some d => some (start, d)
    | none => firstDefect? defect? (start + 1) rest

/-- The first position of a key among tuples. -/
def position? (key : TupleKey) (tuples : List Tuple) : Option Nat :=
  tuples.findIdx? fun t => t.key = key

/-- The first tuple of the second list whose key is in the first list: the key, its first position
in the first list, and its position in the second, counted from `start`. -/
def firstClash? (writes : List Tuple) (start : Nat) :
    List Tuple → Option (TupleKey × Nat × Nat)
  | [] => none
  | t :: rest =>
    match position? t.key writes with
    | some w => some (t.key, w, start)
    | none => firstClash? writes (start + 1) rest

/-- The first defect of two lists: of the writes, of the deletes, of both together. -/
def inputDefect? (writes deletes : List Tuple) : Option InputError :=
  match firstDefect? Tuple.defect? 0 writes with
  | some (index, defect) => some (.invalidTuple .write index defect)
  | none =>
    match firstDefect? Tuple.deleteDefect? 0 deletes with
    | some (index, defect) => some (.invalidTuple .delete index defect)
    | none =>
      match firstClash? writes 0 deletes with
      | some (key, w, d) => some (.ambiguousTuple key w d)
      | none => none

theorem firstDefect?_eq_none_iff (defect? : Tuple → Option Tuple.Defect) (start : Nat)
    (tuples : List Tuple) :
    firstDefect? defect? start tuples = none ↔ ∀ t ∈ tuples, defect? t = none := by
  induction tuples generalizing start with
  | nil => simp [firstDefect?]
  | cons t rest ih =>
    unfold firstDefect?
    split
    · next d hd => simp [hd]
    · next hd => simp [hd, ih]

theorem firstClash?_eq_none_iff (writes : List Tuple) (start : Nat) (deletes : List Tuple) :
    firstClash? writes start deletes = none ↔
      ∀ w ∈ writes, ∀ d ∈ deletes, w.key ≠ d.key := by
  induction deletes generalizing start with
  | nil => simp [firstClash?]
  | cons t rest ih =>
    have hpos : position? t.key writes = none ↔ ∀ w ∈ writes, w.key ≠ t.key := by
      simp [position?, List.findIdx?_eq_none_iff]
    unfold firstClash?
    split
    · next w hw =>
      simp only [reduceCtorEq, false_iff]
      intro h
      have := hpos.mpr fun w hw => h w hw t List.mem_cons_self
      simp [this] at hw
    · next hn =>
      rw [ih]
      have hn := hpos.mp hn
      constructor
      · intro h w hw d hd
        rcases List.mem_cons.mp hd with rfl | hd
        · exact hn w hw
        · exact h w hw d hd
      · exact fun h w hw d hd => h w hw d (List.mem_cons_of_mem _ hd)

/-- Exactly the accepted lists have no defect. -/
theorem inputDefect?_eq_none_iff (writes deletes : List Tuple) :
    inputDefect? writes deletes = none ↔ Accepted writes deletes := by
  have hw := firstDefect?_eq_none_iff Tuple.defect? 0 writes
  have hd := firstDefect?_eq_none_iff Tuple.deleteDefect? 0 deletes
  have hc := firstClash?_eq_none_iff writes 0 deletes
  simp only [Tuple.defect?_eq_none_iff] at hw
  simp only [Tuple.deleteDefect?_eq_none_iff] at hd
  constructor
  · intro h
    unfold inputDefect? at h
    split at h; · simp at h
    next hw' =>
    split at h; · simp at h
    next hd' =>
    split at h; · simp at h
    next hc' =>
    exact ⟨hw.mp hw', fun t ht => (hd.mp hd' t ht).1, fun t ht => (hd.mp hd' t ht).2, hc.mp hc'⟩
  · intro h
    unfold inputDefect?
    rw [hw.mpr h.writes_wellFormed,
      hd.mpr fun t ht => ⟨h.deletes_wellFormed t ht, h.deletes_unconditional t ht⟩,
      hc.mpr h.disjoint]

/-- The change set of two lists, unless they have a defect. -/
def ofLists (writes deletes : List Tuple) : Except InputError ChangeSet :=
  match h : inputDefect? writes deletes with
  | some e => .error e
  | none => .ok ⟨writes, deletes, (inputDefect?_eq_none_iff writes deletes).mp h⟩

/-- The change set of tuples to write. -/
def ofWrites (writes : List Tuple) : Except InputError ChangeSet := ofLists writes []

/-- The change set of tuples to delete. -/
def ofDeletes (deletes : List Tuple) : Except InputError ChangeSet := ofLists [] deletes

/-- The change set that changes nothing. -/
def empty : ChangeSet := ⟨[], [], by constructor <;> simp⟩

/-- The number of tuples of a change set. -/
def size (cs : ChangeSet) : Nat := cs.writes.length + cs.deletes.length

/-- Whether a change set changes nothing. -/
def isEmpty (cs : ChangeSet) : Bool := cs.writes.isEmpty && cs.deletes.isEmpty

end ChangeSet

end TupleClient
