import TupleClient.Proofs.Windows
import TupleClient.Number.Power

/-!
# Positions in words

Where a chunk starts and stops is computed in words of 64 bits, and the limit may be any of them but
zero. A change set has fewer than `2 ^ 63` tuples. A chunk other than the first one exists only if
the limit is smaller than that, so the sum of its start and the limit stays below `2 ^ 64`: products
and sums never wrap, and the chunks are those of exact arithmetic.

## Main definitions

* `ChangeSet.Words` — the numbers of a change set and the limit, as words
* `ChangeSet.Stretch` — a start and a stop in a list, as words
* `ChangeSet.splitInWords?` — the chunks, or none if a stretch lies outside its list

## Main results

* `ChangeSet.Words.toNat_chunkCount` — the number of chunks
* `ChangeSet.Words.toNat_start`, `ChangeSet.Words.toNat_start_add` — no product and no sum wraps
* `ChangeSet.splitInWords_exact` — the chunks are those of exact arithmetic
-/

namespace TupleClient

namespace ChangeSet

/-! ## Words -/

/-- Two positions in a list, as words. -/
structure Stretch where
  start : UInt64
  stop : UInt64

namespace Stretch

/-- The stretch starts before it stops, and stops inside the list. -/
def Within {α : Type} (s : Stretch) (items : List α) : Prop :=
  s.start ≤ s.stop ∧ s.stop.toNat ≤ items.length

instance {α : Type} (s : Stretch) (items : List α) : Decidable (s.Within items) :=
  inferInstanceAs (Decidable (_ ∧ _))

/-- The members of a list on a stretch of it. -/
def of? {α : Type} (s : Stretch) (items : List α) : Option (List α) :=
  if s.Within items then some (window s.start.toNat s.stop.toNat items) else none

end Stretch

/-- How far a position is behind the last write, or zero if it is not. -/
def behind (position written : UInt64) : UInt64 :=
  if position ≤ written then 0 else position - written

theorem toNat_behind (position written : UInt64) :
    (behind position written).toNat = position.toNat - written.toNat := by
  unfold behind
  split
  · next before =>
    rw [UInt64.le_iff_toNat_le] at before
    simpa using (Nat.sub_eq_zero_of_le before).symm
  · next after =>
    rw [UInt64.le_iff_toNat_le, not_le] at after
    exact UInt64.toNat_sub_of_le _ _ (UInt64.le_iff_toNat_le.mpr after.le)

/-- The numbers of writes and of deletes, and the limit of a chunk. -/
structure Words where
  written : UInt64
  deleted : UInt64
  limit : UInt64

namespace Words

/-- The words of a change set and a limit. -/
def ofChangeSet (limit : ChunkLimit) (cs : ChangeSet) : Words :=
  ⟨.ofNat cs.writes.length, .ofNat cs.deletes.length, .ofNat limit.tuples⟩

variable (w : Words) (index : UInt64)

/-- The number of all tuples. -/
def total : UInt64 := w.written + w.deleted

/-- The number of chunks: the quotient, rounded up. -/
def chunkCount : UInt64 :=
  if w.total % w.limit = 0 then w.total / w.limit else w.total / w.limit + 1

/-- Where a chunk starts. -/
def start : UInt64 := index * w.limit

/-- Where a chunk stops. -/
def stop : UInt64 := min (w.start index + w.limit) w.total

/-- The stretch of the writes that a chunk has. -/
def writes : Stretch := ⟨min (w.start index) w.written, min (w.stop index) w.written⟩

/-- The stretch of the deletes that a chunk has. -/
def deletes : Stretch := ⟨behind (w.start index) w.written, behind (w.stop index) w.written⟩

end Words

/-- The chunk with an index, if its stretches lie in their lists. -/
def chunkInWords? (w : Words) (cs : ChangeSet) (index : UInt64) : Option Chunk := do
  let writes ← (w.writes index).of? cs.writes
  let deletes ← (w.deletes index).of? cs.deletes
  return ⟨index.toNat, writes, deletes⟩

/-- The chunks in order, if all stretches lie in their lists. -/
def splitInWords? (limit : ChunkLimit) (cs : ChangeSet) : Option (List Chunk) :=
  let w := Words.ofChangeSet limit cs
  (List.range w.chunkCount.toNat).mapM fun index => chunkInWords? w cs (.ofNat index)

/-! ## Nothing wraps -/

namespace Words

/-- The words count what they stand for, and there is no room for `2 ^ 63` tuples. -/
structure Counts (w : Words) (limit : ChunkLimit) (cs : ChangeSet) : Prop where
  written : w.written.toNat = cs.writes.length
  deleted : w.deleted.toNat = cs.deletes.length
  limit : w.limit.toNat = limit.tuples
  size_lt : cs.size < 2 ^ 63

variable {w : Words} {limit : ChunkLimit} {cs : ChangeSet} {index : UInt64}

theorem counts_ofChangeSet (limitFits : limit.tuples < twoTo 64) (room : cs.size < twoTo 63) :
    (ofChangeSet limit cs).Counts limit cs := by
  have bound : cs.writes.length + cs.deletes.length < 2 ^ 63 := room
  exact ⟨UInt64.toNat_ofNat_of_lt' (show cs.writes.length < 2 ^ 64 by omega),
    UInt64.toNat_ofNat_of_lt' (show cs.deletes.length < 2 ^ 64 by omega),
    UInt64.toNat_ofNat_of_lt' limitFits, bound⟩

theorem toNat_total (h : w.Counts limit cs) : w.total.toNat = cs.size := by
  have bound := h.size_lt
  rw [total, UInt64.toNat_add, h.written, h.deleted, ← size]
  exact Nat.mod_eq_of_lt (by omega)

/-- Rounding up by the remainder is rounding up by adding first. -/
theorem add_pred_div {total limit : ℕ} (positive : 0 < limit) :
    (total + limit - 1) / limit =
      if total % limit = 0 then total / limit else total / limit + 1 := by
  have whole := Nat.div_add_mod total limit
  have short := Nat.mod_lt total positive
  rw [Nat.mul_comm] at whole
  split
  · exact Nat.div_eq_of_lt_le (by omega) (by rw [Nat.succ_mul]; omega)
  · exact Nat.div_eq_of_lt_le (by rw [Nat.succ_mul]; omega)
      (by rw [Nat.succ_mul, Nat.succ_mul]; omega)

/-- The number of chunks is the exact one. -/
theorem toNat_chunkCount (h : w.Counts limit cs) : w.chunkCount.toNat = cs.chunkCount limit := by
  have bound := h.size_lt
  -- The quotient is at most the number of tuples, so one more has room.
  have quotient : cs.size / limit.tuples ≤ cs.size := Nat.div_le_self _ _
  have remainder : w.total % w.limit = 0 ↔ cs.size % limit.tuples = 0 := by
    rw [← UInt64.toNat_inj, UInt64.toNat_mod, toNat_total h, h.limit, UInt64.toNat_zero]
  rw [chunkCount, ChangeSet.chunkCount, add_pred_div limit.positive]
  simp only [remainder]
  split
  · rw [UInt64.toNat_div, toNat_total h, h.limit]
  · rw [UInt64.toNat_add, UInt64.toNat_div, toNat_total h, h.limit, UInt64.toNat_one]
    exact Nat.mod_eq_of_lt (by omega)

/-- A chunk starts before the last tuple. -/
theorem index_mul_lt (h : w.Counts limit cs) (inside : index < w.chunkCount) :
    index.toNat * limit.tuples < cs.size := by
  rw [UInt64.lt_iff_toNat_lt, toNat_chunkCount h] at inside
  exact (lt_chunkCount_iff limit cs).mp inside

/-- The product that says where a chunk starts does not wrap. -/
theorem toNat_start (h : w.Counts limit cs) (inside : index < w.chunkCount) :
    (w.start index).toNat = index.toNat * limit.tuples := by
  have bound := h.size_lt
  have before := index_mul_lt h inside
  rw [start, UInt64.toNat_mul, h.limit]
  exact Nat.mod_eq_of_lt (by omega)

/-- The sum that says where a chunk would stop does not wrap. The limit may be near `2 ^ 64`, but
then there is only one chunk, which starts at zero. -/
theorem toNat_start_add (h : w.Counts limit cs) (inside : index < w.chunkCount) :
    (w.start index + w.limit).toNat = index.toNat * limit.tuples + limit.tuples := by
  have bound := h.size_lt
  have before := index_mul_lt h inside
  have greatest := w.limit.toNat_lt
  rw [UInt64.toNat_add, toNat_start h inside, h.limit]
  rw [h.limit] at greatest
  refine Nat.mod_eq_of_lt ?_
  rcases Nat.eq_zero_or_pos index.toNat with first | later
  · rw [first, Nat.zero_mul, Nat.zero_add]
    exact greatest
  · -- The limit is not greater than the start of a second chunk.
    have atMost : limit.tuples ≤ index.toNat * limit.tuples := Nat.le_mul_of_pos_left _ later
    omega

theorem toNat_stop (h : w.Counts limit cs) (inside : index < w.chunkCount) :
    (w.stop index).toNat = min (index.toNat * limit.tuples + limit.tuples) cs.size := by
  rw [stop, UInt64.toNat_min, toNat_start_add h inside, toNat_total h]

theorem start_le_stop (h : w.Counts limit cs) (inside : index < w.chunkCount) :
    (w.start index).toNat ≤ (w.stop index).toNat := by
  have before := index_mul_lt h inside
  rw [toNat_start h inside, toNat_stop h inside]
  omega

/-- The writes of a chunk lie among the writes. -/
theorem writes_within (h : w.Counts limit cs) (inside : index < w.chunkCount) :
    (w.writes index).Within cs.writes := by
  have ordered := start_le_stop h inside
  constructor
  · rw [UInt64.le_iff_toNat_le, writes, UInt64.toNat_min, UInt64.toNat_min]
    omega
  · rw [writes, UInt64.toNat_min, h.written]
    exact min_le_right _ _

/-- The deletes of a chunk lie among the deletes. -/
theorem deletes_within (h : w.Counts limit cs) (inside : index < w.chunkCount) :
    (w.deletes index).Within cs.deletes := by
  have ordered := start_le_stop h inside
  constructor
  · rw [UInt64.le_iff_toNat_le, deletes, toNat_behind, toNat_behind]
    omega
  · rw [deletes, toNat_behind, toNat_stop h inside, h.written, size]
    omega

/-- A chunk that is cut with words is the exact one. -/
theorem chunkInWords?_eq (h : w.Counts limit cs) (inside : index < w.chunkCount) :
    chunkInWords? w cs index = some (cs.chunkAt limit index.toNat) := by
  have writes : (w.writes index).of? cs.writes = some (cs.chunkAt limit index.toNat).writes := by
    rw [Stretch.of?, if_pos (writes_within h inside), Words.writes]
    simp only [UInt64.toNat_min, toNat_start h inside, toNat_stop h inside, h.written, chunkAt]
  have deletes :
      (w.deletes index).of? cs.deletes = some (cs.chunkAt limit index.toNat).deletes := by
    rw [Stretch.of?, if_pos (deletes_within h inside), Words.deletes]
    simp only [toNat_behind, toNat_start h inside, toNat_stop h inside, h.written, chunkAt]
  rw [chunkInWords?, writes, deletes]
  rfl

end Words

/-! ## The chunks -/

theorem mapM_eq_some {α β : Type} {f : α → Option β} {g : α → β} {items : List α}
    (each : ∀ a ∈ items, f a = some (g a)) : items.mapM f = some (items.map g) := by
  induction items with
  | nil => rfl
  | cons a rest ih =>
    rw [List.mapM_cons, each a List.mem_cons_self,
      ih fun other member => each other (List.mem_cons_of_mem a member)]
    rfl

variable {limit : ChunkLimit} {cs : ChangeSet}

/-- Splitting with words yields the exact chunks: their number is the exact one, no product and no
sum wraps, and every stretch starts before it stops and stops inside its list. -/
theorem splitInWords_exact (limitFits : limit.tuples < twoTo 64) (room : cs.size < twoTo 63) :
    let w := Words.ofChangeSet limit cs
    w.total.toNat = cs.size ∧ w.chunkCount.toNat = cs.chunkCount limit ∧
      cs.splitInWords? limit = some (cs.split limit) ∧
      ∀ index < w.chunkCount,
        (index * w.limit).toNat = index.toNat * limit.tuples ∧
        (index * w.limit + w.limit).toNat = index.toNat * limit.tuples + limit.tuples ∧
        (w.writes index).Within cs.writes ∧ (w.deletes index).Within cs.deletes := by
  intro w
  have counts : w.Counts limit cs := Words.counts_ofChangeSet limitFits room
  refine ⟨Words.toNat_total counts, Words.toNat_chunkCount counts, ?_, fun index inside =>
    ⟨Words.toNat_start counts inside, Words.toNat_start_add counts inside,
      Words.writes_within counts inside, Words.deletes_within counts inside⟩⟩
  have each : ∀ i ∈ List.range w.chunkCount.toNat,
      chunkInWords? w cs (.ofNat i) = some (cs.chunkAt limit i) := by
    intro i member
    have below := List.mem_range.mp member
    have same : (UInt64.ofNat i).toNat = i :=
      UInt64.toNat_ofNat_of_lt' (below.trans w.chunkCount.toNat_lt)
    have inside : UInt64.ofNat i < w.chunkCount := UInt64.lt_iff_toNat_lt.mpr (same.symm ▸ below)
    rw [Words.chunkInWords?_eq counts inside, same]
  calc cs.splitInWords? limit = some ((List.range w.chunkCount.toNat).map (cs.chunkAt limit)) :=
        mapM_eq_some each
    _ = some (cs.split limit) := by rw [Words.toNat_chunkCount counts, split]

/-- The greatest limit of all is added to the start of the first chunk, and to nothing else. -/
theorem splitInWords_exact_handover :
    let limit : ChunkLimit := ⟨twoTo 64 - 1, by decide⟩
    limit.tuples < twoTo 64 ∧ handover.size < twoTo 63 ∧
      handover.splitInWords? limit = some [⟨0, [reader "anne"], [reader "bob"]⟩] := by
  intro limit
  have limitFits : limit.tuples < twoTo 64 := by decide
  have room : handover.size < twoTo 63 := by decide
  have single : handover.chunkCount limit = 1 := by decide
  have exact : handover.split limit = [⟨0, [reader "anne"], [reader "bob"]⟩] := by
    rw [split, single]
    rfl
  exact ⟨limitFits, room, exact ▸ (splitInWords_exact limitFits room).2.2.1⟩

end ChangeSet

end TupleClient
