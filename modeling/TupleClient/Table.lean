/-!
# Tables

A table holds at most one value per key. Only what is found under each key matters; the order of
the entries is that of their first insertion.

## Main definitions

* `Table` — the entries
* `Table.find?`, `Table.insert`, `Table.erase` — reading, setting and removing a value

## Main results

* `Table.find?_insert`, `Table.find?_erase` — what is found after a change
* `Table.erase_insert_of_ne` — changes under different keys may change places
-/

namespace TupleClient

/-- Values by key. -/
structure Table (κ α : Type) where
  entries : List (κ × α) := []
deriving Inhabited

namespace Table

variable {κ α : Type} [DecidableEq κ]

/-- The table without entries. -/
def empty : Table κ α := {}

/-- The first value under a key in a list of entries. -/
def lookup (key : κ) : List (κ × α) → Option α
  | [] => none
  | (k, v) :: rest => if k = key then some v else lookup key rest

/-- The value under a key. -/
def find? (t : Table κ α) (key : κ) : Option α := lookup key t.entries

/-- Whether there is a value under a key. -/
def contains (t : Table κ α) (key : κ) : Bool := (t.find? key).isSome

/-- Entries with the value under a key set, in its place if the key is present. -/
def put (key : κ) (value : α) : List (κ × α) → List (κ × α)
  | [] => [(key, value)]
  | (k, v) :: rest => if k = key then (key, value) :: rest else (k, v) :: put key value rest

/-- The table with the value under a key set. -/
def insert (t : Table κ α) (key : κ) (value : α) : Table κ α := ⟨put key value t.entries⟩

/-- The table without a value under a key. -/
def erase (t : Table κ α) (key : κ) : Table κ α := ⟨t.entries.filter fun e => e.1 ≠ key⟩

/-- The number of entries. -/
def size (t : Table κ α) : Nat := t.entries.length

@[simp] theorem find?_empty (key : κ) : (empty : Table κ α).find? key = none := rfl

theorem lookup_put (key other : κ) (value : α) (entries : List (κ × α)) :
    lookup other (put key value entries) =
      if other = key then some value else lookup other entries := by
  induction entries with
  | nil =>
    by_cases h : other = key
    · simp [put, lookup, h]
    · simp [put, lookup, h, Ne.symm h]
  | cons entry rest ih =>
    obtain ⟨k, v⟩ := entry
    by_cases hk : k = key
    · by_cases h : other = key
      · simp [put, lookup, h, hk]
      · simp [put, lookup, h, hk, Ne.symm h]
    · rw [put, if_neg hk, lookup, lookup, ih]
      by_cases h : other = key
      · simp [h, hk]
      · simp [h]

/-- A value that was set is found, and every other key keeps its value. -/
theorem find?_insert (t : Table κ α) (key other : κ) (value : α) :
    (t.insert key value).find? other = if other = key then some value else t.find? other :=
  lookup_put key other value t.entries

theorem lookup_filter (key other : κ) (entries : List (κ × α)) :
    lookup other (entries.filter fun e => e.1 ≠ key) =
      if other = key then none else lookup other entries := by
  induction entries with
  | nil => simp [lookup]
  | cons entry rest ih =>
    obtain ⟨k, v⟩ := entry
    by_cases hk : k = key
    · by_cases h : other = key
      · simpa [lookup, hk, h] using ih
      · simpa [lookup, hk, h, Ne.symm h] using ih
    · by_cases h : other = key
      · have : k ≠ other := h ▸ hk
        simpa [lookup, hk, h, this] using ih
      · simp only [ne_eq, decide_not, lookup, h, ↓reduceIte] at ih ⊢
        simp [hk, lookup, ih]

/-- Nothing is found under a removed key, and every other key keeps its value. -/
theorem find?_erase (t : Table κ α) (key other : κ) :
    (t.erase key).find? other = if other = key then none else t.find? other :=
  lookup_filter key other t.entries

/-! ### Changes that change nothing, or each other -/

theorem erase_of_find?_eq_none {t : Table κ α} {key : κ} (absent : t.find? key = none) :
    t.erase key = t := by
  obtain ⟨entries⟩ := t
  simp only [erase, mk.injEq, List.filter_eq_self, decide_eq_true_eq]
  simp only [find?] at absent
  induction entries with
  | nil => simp
  | cons entry rest ih =>
    by_cases here : entry.1 = key
    · simp [lookup, here] at absent
    · rw [lookup, if_neg here] at absent
      intro e member
      rcases List.mem_cons.mp member with rfl | member
      · exact here
      · exact ih absent e member

/-- Where setting a value changes nothing, the value is there. -/
theorem eq_of_insert_eq_self {t : Table κ α} {key : κ} {value old : α}
    (same : t.insert key value = t) (found : t.find? key = some old) : value = old := by
  have left := find?_insert t key key value
  rw [same, found, if_pos rfl] at left
  exact (Option.some.inj left).symm

theorem insert_insert (t : Table κ α) (key : κ) (value other : α) :
    (t.insert key value).insert key other = t.insert key other := by
  obtain ⟨entries⟩ := t
  simp only [insert, mk.injEq]
  induction entries with
  | nil => simp [put]
  | cons entry rest ih =>
    by_cases here : entry.1 = key
    · simp [put, here]
    · simp [put, here, ih]

theorem erase_insert_of_ne {key other : κ} (distinct : key ≠ other) (t : Table κ α) (value : α) :
    (t.insert key value).erase other = (t.erase other).insert key value := by
  obtain ⟨entries⟩ := t
  simp only [insert, erase, mk.injEq]
  induction entries with
  | nil => simp [put, distinct]
  | cons entry rest ih =>
    by_cases here : entry.1 = key
    · simp [put, here, distinct]
    · by_cases gone : entry.1 = other
      · simpa [put, Ne.symm distinct, gone] using ih
      · simpa [put, here, gone] using ih

end Table

end TupleClient
