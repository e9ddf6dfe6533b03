import TupleClient.ChangeSet

/-!
# Chunks

The service accepts a limited number of tuples in one call. A change set is seen as its writes
followed by its deletes and cut into consecutive windows of at most that many tuples, so each chunk
is a stretch of the writes followed by a stretch of the deletes.

## Main definitions

* `ChunkLimit` — the greatest number of tuples of a chunk, which is not zero
* `Chunk` — one window of a change set
* `ChangeSet.chunkCount`, `ChangeSet.split` — the number of windows, and the windows in order
-/

namespace TupleClient

/-- The greatest number of tuples that one call may carry. -/
structure ChunkLimit where
  tuples : Nat
  positive : 0 < tuples

namespace ChunkLimit

/-- The limit of the service. -/
def standard : ChunkLimit := ⟨100, by decide⟩

instance : Inhabited ChunkLimit := ⟨standard⟩

/-- The limit of so many tuples, unless that is none. -/
def ofNat (n : Nat) : Except InputError ChunkLimit :=
  if h : 0 < n then .ok ⟨n, h⟩ else .error .zeroLimit

end ChunkLimit

/-- One window of a change set. -/
structure Chunk where
  /-- The position of the chunk in its transaction, from zero. -/
  index : Nat
  writes : List Tuple
  deletes : List Tuple

namespace Chunk

/-- The number of tuples of a chunk. -/
def size (c : Chunk) : Nat := c.writes.length + c.deletes.length

/-- Whether a chunk has no tuples. -/
def isEmpty (c : Chunk) : Bool := c.size == 0

end Chunk

namespace ChangeSet

/-- The number of windows of a change set, the last of which may be short. -/
def chunkCount (limit : ChunkLimit) (cs : ChangeSet) : Nat :=
  (cs.size + limit.tuples - 1) / limit.tuples

/-- The members of a list from position `start` up to, but not including, position `stop`. -/
def window {α : Type} (start stop : Nat) (items : List α) : List α :=
  (items.take stop).drop start

/-- The window at a position. A position counts through the writes before it counts through the
deletes. -/
def chunkAt (limit : ChunkLimit) (cs : ChangeSet) (index : Nat) : Chunk :=
  let start := index * limit.tuples
  let stop := min (start + limit.tuples) cs.size
  let written := cs.writes.length
  { index := index
    writes := window (min start written) (min stop written) cs.writes
    deletes := window (start - written) (stop - written) cs.deletes }

/-- The windows of a change set, in order. -/
def split (limit : ChunkLimit) (cs : ChangeSet) : List Chunk :=
  (List.range (cs.chunkCount limit)).map (cs.chunkAt limit)

end ChangeSet

end TupleClient
