import TupleClient.Proofs.Windows

/-!
# Chunks as a partition

A change set is cut into as few chunks as the limit allows, full ones first. Nothing is lost,
repeated or moved: the writes of the chunks put together are the writes of the change set, and so
are the deletes. Writes come before deletes, so that only the chunk in which the writes end can have
both. These properties leave no choice: there is exactly one list of chunks that has them.

## Main definitions

* `ChangeSet.Partitions` — a list of chunks is such a partition

## Main results

* `ChangeSet.partitions_split` — splitting yields a partition
* `ChangeSet.Partitions.unique` — there is no other one
* `ChangeSet.partitions_iff` — what splitting yields is the partition
-/

namespace TupleClient

namespace Chunk

/-- A chunk has both tuples to write and tuples to delete. -/
def IsMixed (c : Chunk) : Prop := c.writes ≠ [] ∧ c.deletes ≠ []

/-- The tuples of a chunk, each with the side that it is on. -/
def marked (c : Chunk) : List (Tuple ⊕ Tuple) := c.writes.map .inl ++ c.deletes.map .inr

theorem length_marked (c : Chunk) : c.marked.length = c.size := by
  simp [marked, size]

/-- A chunk is known by its position and its marked tuples. -/
theorem eq_of_marked {a b : Chunk} (index : a.index = b.index) (marked : a.marked = b.marked) :
    a = b := by
  obtain ⟨i, writes, deletes⟩ := a
  obtain ⟨j, writes', deletes'⟩ := b
  have writesSame := congrArg (List.filterMap Sum.getLeft?) marked
  have deletesSame := congrArg (List.filterMap Sum.getRight?) marked
  simp only [Chunk.marked, List.filterMap_append, List.filterMap_map] at writesSame deletesSame
  simp_all [Function.comp_def]

end Chunk

namespace ChangeSet

/-- A list of chunks cuts a change set into as few chunks as possible, without changing the order of
its tuples. -/
structure Partitions (limit : ChunkLimit) (cs : ChangeSet) (chunks : List Chunk) : Prop where
  length_eq : chunks.length = cs.size ⌈/⌉ limit.tuples
  length_eq_chunkCount : chunks.length = cs.chunkCount limit
  eq_nil_iff : chunks = [] ↔ cs.size = 0
  index_eq : ∀ (i : ℕ) (chunk : Chunk), chunks[i]? = some chunk → chunk.index = i
  /-- Every chunk but the last one is full. -/
  full : ∀ (i : ℕ) (chunk : Chunk), chunks[i]? = some chunk → i + 1 < chunks.length →
    chunk.size = limit.tuples
  /-- The last chunk is neither empty nor too long. -/
  last : ∀ chunk, chunks.getLast? = some chunk → 1 ≤ chunk.size ∧ chunk.size ≤ limit.tuples
  writes_eq : chunks.flatMap Chunk.writes = cs.writes
  deletes_eq : chunks.flatMap Chunk.deletes = cs.deletes
  /-- No write comes in a later chunk than a delete. -/
  writesFirst : chunks.Pairwise fun earlier later => earlier.deletes ≠ [] → later.writes = []
  /-- At most one chunk has both. -/
  mixedOnce : chunks.Pairwise fun earlier later => ¬ (earlier.IsMixed ∧ later.IsMixed)

variable {limit : ChunkLimit} {cs : ChangeSet} {chunks : List Chunk}

/-! ## Splitting yields a partition -/

theorem lt_of_writes_ne_nil {i : ℕ} (written : (cs.chunkAt limit i).writes ≠ []) :
    i * limit.tuples < cs.writes.length := by
  by_contra beyond
  refine written (List.drop_eq_nil_of_le ?_)
  rw [List.length_take]
  omega

theorem lt_of_deletes_ne_nil {i : ℕ} (deleted : (cs.chunkAt limit i).deletes ≠ []) :
    cs.writes.length < (i + 1) * limit.tuples := by
  by_contra before
  rw [Nat.succ_mul] at before
  refine deleted (List.drop_eq_nil_of_le ?_)
  rw [List.length_take]
  omega

/-- A chunk after one with a delete starts behind the last write. -/
theorem writes_eq_nil_of_lt {i j : ℕ} (later : i < j)
    (deleted : (cs.chunkAt limit i).deletes ≠ []) : (cs.chunkAt limit j).writes = [] := by
  by_contra written
  have starts := lt_of_writes_ne_nil written
  have ends := lt_of_deletes_ne_nil deleted
  have : (i + 1) * limit.tuples ≤ j * limit.tuples := Nat.mul_le_mul_right _ later
  omega

theorem size_chunkAt_of_lt {i : ℕ} (inside : i + 1 < cs.chunkCount limit) :
    (cs.chunkAt limit i).size = limit.tuples := by
  have next := (lt_chunkCount_iff limit cs).mp inside
  rw [Nat.succ_mul] at next
  rw [size_chunkAt]
  omega

theorem writesFirst_split (limit : ChunkLimit) (cs : ChangeSet) :
    (cs.split limit).Pairwise fun earlier later => earlier.deletes ≠ [] → later.writes = [] := by
  rw [split, List.pairwise_map]
  exact List.pairwise_lt_range.imp writes_eq_nil_of_lt

/-- Splitting yields a partition. -/
theorem partitions_split (limit : ChunkLimit) (cs : ChangeSet) :
    Partitions limit cs (cs.split limit) where
  length_eq := by rw [length_split, chunkCount_eq_ceilDiv]
  length_eq_chunkCount := length_split limit cs
  eq_nil_iff := split_eq_nil_iff limit cs
  index_eq i chunk found := by
    obtain ⟨-, rfl⟩ := (getElem?_split_eq_some limit cs).mp found
    rfl
  full i chunk found inside := by
    obtain ⟨-, rfl⟩ := (getElem?_split_eq_some limit cs).mp found
    exact size_chunkAt_of_lt (length_split limit cs ▸ inside)
  last chunk found := by
    rw [List.getLast?_eq_getElem?] at found
    obtain ⟨inside, rfl⟩ := (getElem?_split_eq_some limit cs).mp found
    exact ⟨size_chunkAt_pos limit cs inside, size_chunkAt_le limit cs _⟩
  writes_eq := flatMap_writes_split limit cs
  deletes_eq := flatMap_deletes_split limit cs
  writesFirst := writesFirst_split limit cs
  mixedOnce := (writesFirst_split limit cs).imp fun first both => both.2.1 (first both.1.2)

/-! ## There is no other partition -/

/-- If no write follows a delete, the marked tuples of the chunks are all writes and then all
deletes. -/
theorem flatMap_marked
    (ordered : chunks.Pairwise fun earlier later => earlier.deletes ≠ [] → later.writes = []) :
    chunks.flatMap Chunk.marked =
      (chunks.flatMap Chunk.writes).map .inl ++ (chunks.flatMap Chunk.deletes).map .inr := by
  induction chunks with
  | nil => rfl
  | cons chunk rest ih =>
    obtain ⟨first, ordered⟩ := List.pairwise_cons.mp ordered
    simp only [List.flatMap_cons, List.map_append, ih ordered, Chunk.marked]
    by_cases none : chunk.deletes = []
    · simp [none]
    · -- The rest has no writes, so nothing comes between the two stretches of deletes.
      have noWrites : rest.flatMap Chunk.writes = [] :=
        List.flatMap_eq_nil_iff.mpr fun later member => first later member none
      simp [noWrites]

/-- Where all lists but the last one have the same length, each one is a stretch of all of them put
together. -/
theorem getElem?_eq_stretch {α : Type} {width : ℕ} {lists : List (List α)} {items : List α} {i : ℕ}
    (full : ∀ j items, lists[j]? = some items → j + 1 < lists.length → items.length = width)
    (last : ∀ items, lists.getLast? = some items → items.length ≤ width)
    (found : lists[i]? = some items) : items = (lists.flatten.drop (i * width)).take width := by
  induction lists generalizing i with
  | nil => simp at found
  | cons head rest ih =>
    rcases List.eq_nil_or_concat rest with rfl | ⟨front, back, rfl⟩
    · -- A single list is the last one.
      obtain ⟨rfl, rfl⟩ : i = 0 ∧ head = items := by
        cases i <;> simp_all
      have short := last head rfl
      simp [List.take_of_length_le short]
    · have headFull : head.length = width := full 0 head rfl (by simp)
      cases i with
      | zero =>
        obtain rfl := Option.some.inj found
        simp [← headFull]
      | succ i =>
        have restFull (j : ℕ) (items : List α) (there : (front.concat back)[j]? = some items)
            (inside : j + 1 < (front.concat back).length) : items.length = width :=
          full (j + 1) items there (by simpa using inside)
        have restLast (items : List α) (there : (front.concat back).getLast? = some items) :
            items.length ≤ width :=
          last items (by rwa [List.getLast?_cons_of_ne_nil (by simp)])
        rw [ih restFull restLast found, List.flatten_cons, Nat.succ_mul, Nat.add_comm, ← headFull,
          List.drop_length_add_append]

/-- The marked tuples of a chunk of a partition. -/
theorem Partitions.marked_eq (h : Partitions limit cs chunks) {i : ℕ} {chunk : Chunk}
    (found : chunks[i]? = some chunk) :
    chunk.marked = ((cs.writes.map Sum.inl ++ cs.deletes.map Sum.inr).drop
      (i * limit.tuples)).take limit.tuples := by
  have whole := flatMap_marked h.writesFirst
  rw [h.writes_eq, h.deletes_eq, List.flatMap_def] at whole
  rw [← whole]
  refine getElem?_eq_stretch (fun j items there inside => ?_) (fun items there => ?_)
    (by rw [List.getElem?_map, found, Option.map_some])
  · rw [List.getElem?_map, Option.map_eq_some_iff] at there
    obtain ⟨other, there, rfl⟩ := there
    rw [Chunk.length_marked]
    exact h.full j other there (by simpa using inside)
  · rw [List.getLast?_map, Option.map_eq_some_iff] at there
    obtain ⟨other, there, rfl⟩ := there
    rw [Chunk.length_marked]
    exact (h.last other there).2

/-- Two partitions of a change set are the same. -/
theorem Partitions.unique {others : List Chunk} (h : Partitions limit cs chunks)
    (h' : Partitions limit cs others) : chunks = others := by
  refine List.ext_getElem (h.length_eq.trans h'.length_eq.symm) fun i inside inside' => ?_
  have found := List.getElem?_eq_getElem inside
  have found' := List.getElem?_eq_getElem inside'
  -- Both chunks are the same stretch of the same marked tuples.
  refine Chunk.eq_of_marked ?_ ?_
  · rw [h.index_eq i _ found, h'.index_eq i _ found']
  · rw [h.marked_eq found, h'.marked_eq found']

/-- A list of chunks is a partition of a change set exactly if it is what splitting yields. -/
theorem partitions_iff : Partitions limit cs chunks ↔ chunks = cs.split limit := by
  constructor
  · exact fun h => h.unique (partitions_split limit cs)
  · rintro rfl
    exact partitions_split limit cs

end ChangeSet

end TupleClient
