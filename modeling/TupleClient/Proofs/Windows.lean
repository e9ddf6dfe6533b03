import Mathlib.Algebra.Order.Floor.Div
import TupleClient.Chunk

/-!
# The windows of a change set

The chunks of a change set tile the list of its writes followed by its deletes: the chunk at
position `i` is the stretch of this list that starts at `i` times the limit, and put together the
chunks give back the whole list.

## Main results

* `ChangeSet.chunkCount_eq_ceilDiv` — the number of chunks
* `ChangeSet.chunkAt_append` — a chunk is a stretch of the writes followed by the deletes
* `ChangeSet.size_chunkAt` — the size of a chunk
* `ChangeSet.flatMap_split` — the chunks together are the whole change set
-/

namespace TupleClient

namespace ChangeSet

variable {α : Type} (limit : ChunkLimit) (cs : ChangeSet)

/-! ## Counting -/

/-- There are as many chunks as the number of tuples divided by the limit and rounded up. -/
theorem chunkCount_eq_ceilDiv : cs.chunkCount limit = cs.size ⌈/⌉ limit.tuples :=
  (Nat.ceilDiv_eq_add_pred_div _ _).symm

theorem lt_chunkCount_iff {i : Nat} : i < cs.chunkCount limit ↔ i * limit.tuples < cs.size := by
  rw [chunkCount_eq_ceilDiv, ← not_le, ceilDiv_le_iff_le_mul limit.positive, not_le, Nat.mul_comm]

theorem size_le_chunkCount_mul : cs.size ≤ cs.chunkCount limit * limit.tuples := by
  rw [← not_lt, ← lt_chunkCount_iff]
  exact lt_irrefl _

theorem length_split : (cs.split limit).length = cs.chunkCount limit := by
  simp [split]

theorem getElem?_split_eq_some {i : Nat} {chunk : Chunk} :
    (cs.split limit)[i]? = some chunk ↔ i < cs.chunkCount limit ∧ cs.chunkAt limit i = chunk := by
  simp [split, List.getElem?_eq_some_iff]

theorem chunkCount_eq_zero_iff : cs.chunkCount limit = 0 ↔ cs.size = 0 := by
  have := lt_chunkCount_iff limit cs (i := 0)
  omega

theorem chunkCount_pos (nonempty : cs.size ≠ 0) : 0 < cs.chunkCount limit :=
  Nat.pos_of_ne_zero (mt (chunkCount_eq_zero_iff limit cs).mp nonempty)

theorem split_eq_nil_iff : cs.split limit = [] ↔ cs.size = 0 := by
  rw [← List.length_eq_zero_iff, length_split, chunkCount_eq_zero_iff]

/-! ## Tiling -/

private theorem window_append (start stop : Nat) (as bs : List α) :
    window start stop (as ++ bs) =
      window (min start as.length) (min stop as.length) as ++
        window (start - as.length) (stop - as.length) bs := by
  simp only [window, List.take_append, List.drop_append, List.length_take]
  -- The part in `as` and the part in `bs` agree one by one.
  congr 1
  · rw [List.take_eq_take_min]
    rcases le_total start as.length with inside | outside
    · rw [min_eq_left inside]
    · rw [min_eq_right outside, List.drop_eq_nil_of_le (by simp; omega),
        List.drop_eq_nil_of_le (by simp)]
  · rcases le_total stop as.length with inside | outside
    · simp [Nat.sub_eq_zero_of_le inside]
    · rw [min_eq_right outside]

private theorem map_window (f : Tuple → α) (start stop : Nat) (items : List Tuple) :
    (window start stop items).map f = window start stop (items.map f) := by
  simp [window]

/-- The writes of a chunk followed by its deletes are the stretch of the whole list that starts at
the chunk's index times the limit. -/
theorem chunkAt_append (f g : Tuple → α) (i : Nat) :
    (cs.chunkAt limit i).writes.map f ++ (cs.chunkAt limit i).deletes.map g =
      ((cs.writes.map f ++ cs.deletes.map g).drop (i * limit.tuples)).take limit.tuples := by
  have whole := window_append (i * limit.tuples) (min (i * limit.tuples + limit.tuples) cs.size)
    (cs.writes.map f) (cs.deletes.map g)
  have size : cs.size = (cs.writes.map f ++ cs.deletes.map g).length := by simp [size]
  simp only [List.length_map] at whole
  simp only [chunkAt, map_window]
  rw [← whole, window, size, ← List.take_eq_take_min, List.drop_take, Nat.add_sub_cancel_left]

/-- A chunk is full, unless it is the last one. -/
theorem size_chunkAt (i : ℕ) :
    (cs.chunkAt limit i).size = min limit.tuples (cs.size - i * limit.tuples) := by
  have stretch := congrArg List.length (chunkAt_append limit cs id id i)
  simpa [Chunk.size, size] using stretch

theorem size_chunkAt_pos {i : ℕ} (inside : i < cs.chunkCount limit) :
    0 < (cs.chunkAt limit i).size := by
  have := (lt_chunkCount_iff limit cs).mp inside
  have := limit.positive
  rw [size_chunkAt]
  omega

theorem size_chunkAt_le (i : ℕ) : (cs.chunkAt limit i).size ≤ limit.tuples := by
  rw [size_chunkAt]
  exact min_le_left _ _

private theorem flatMap_range_take (width count : Nat) (items : List α) :
    (List.range count).flatMap (fun i => (items.drop (i * width)).take width) =
      items.take (count * width) := by
  -- The windows before the last one are the first `count * width` members.
  induction count with
  | zero => simp
  | succ count ih =>
    rw [List.range_succ, List.flatMap_append, ih, Nat.succ_mul, List.take_add]
    simp

/-- The chunks together are the whole change set, in order. -/
theorem flatMap_split (f g : Tuple → α) :
    ((cs.split limit).flatMap fun c => c.writes.map f ++ c.deletes.map g) =
      cs.writes.map f ++ cs.deletes.map g := by
  simp only [split, List.flatMap_map, chunkAt_append, flatMap_range_take]
  refine List.take_of_length_le ?_
  simpa [size] using size_le_chunkCount_mul limit cs

theorem flatMap_writes_split : (cs.split limit).flatMap Chunk.writes = cs.writes := by
  have tiled := congrArg (List.filterMap id) (flatMap_split limit cs some (fun _ => none))
  simpa [List.filterMap_flatMap, List.filterMap_append, List.filterMap_map] using tiled

theorem flatMap_deletes_split : (cs.split limit).flatMap Chunk.deletes = cs.deletes := by
  have tiled := congrArg (List.filterMap id) (flatMap_split limit cs (fun _ => none) some)
  simpa [List.filterMap_flatMap, List.filterMap_append, List.filterMap_map] using tiled

/-! ## A change set with one tuple on each side -/

/-- The tuple that makes a user a reader of a document. -/
def reader (user : String) : Tuple := ⟨⟨user, "reader", "doc:1"⟩, none⟩

/-- One user becomes a reader in the place of another one. -/
def handover : ChangeSet where
  writes := [reader "anne"]
  deletes := [reader "bob"]
  accepted := (inputDefect?_eq_none_iff _ _).mp (by decide)

end ChangeSet

end TupleClient
