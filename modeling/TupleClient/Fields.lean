/-!
# Named fields

A list of named values in strictly ascending order of name, where names are compared by code point.
Storing a value under a name that is present replaces the value in its place.

## Main definitions

* `Fields.store` — the list with one value stored
* `Fields.find?` — the value under a name
* `Fields.ofList` — the values of a list stored one after the other, so that the last one stays
* `Fields.Ascending` — the names ascend strictly

## Main results

* `Fields.find?_store` — a stored value is found, and no other name is affected
* `Fields.ascending_store` — storing keeps the order
-/

namespace TupleClient

/-- A list of named values. -/
abbrev Fields (α : Type) := List (String × α)

namespace Fields

variable {α : Type}

/-- The value under a name. -/
def find? (name : String) : Fields α → Option α
  | [] => none
  | (n, v) :: rest => if n = name then some v else find? name rest

/-- The list with a value stored under a name, in its place in the order. -/
def store (name : String) (value : α) : Fields α → Fields α
  | [] => [(name, value)]
  | (n, v) :: rest =>
    if name < n then (name, value) :: (n, v) :: rest
    else if n = name then (name, value) :: rest
    else (n, v) :: store name value rest

/-- The values of a list stored from the first to the last. -/
def ofList (entries : List (String × α)) : Fields α :=
  entries.foldl (fun fields entry => store entry.1 entry.2 fields) []

/-- The names ascend strictly. -/
def Ascending (fields : Fields α) : Prop :=
  fields.Pairwise fun a b => a.1 < b.1

@[simp] theorem find?_nil (name : String) : find? name ([] : Fields α) = none := rfl

theorem find?_cons (name n : String) (v : α) (rest : Fields α) :
    find? name ((n, v) :: rest) = if n = name then some v else find? name rest := rfl

theorem find?_store_self (name : String) (value : α) (fields : Fields α) :
    find? name (store name value fields) = some value := by
  induction fields with
  | nil => simp [store, find?]
  | cons entry rest ih =>
    obtain ⟨n, v⟩ := entry
    unfold store
    split
    · simp [find?]
    · split
      · simp [find?]
      · next h => simp [find?, h, ih]

theorem find?_store_of_ne {name other : String} (h : other ≠ name) (value : α)
    (fields : Fields α) : find? other (store name value fields) = find? other fields := by
  induction fields with
  | nil => simp [store, find?, h.symm]
  | cons entry rest ih =>
    obtain ⟨n, v⟩ := entry
    unfold store
    split
    · simp [find?, h.symm]
    · split
      · next hn => simp [find?, hn, h.symm]
      · simp [find?, ih]

/-- A stored value is found under its name, and every other name keeps its value. -/
theorem find?_store (name other : String) (value : α) (fields : Fields α) :
    find? other (store name value fields) =
      if other = name then some value else find? other fields := by
  split
  · next h => rw [h, find?_store_self]
  · next h => exact find?_store_of_ne h value fields

theorem lt_of_not_lt_of_ne {a b : String} (h : ¬ a < b) (hne : b ≠ a) : b < a := by
  have hle : b ≤ a := String.not_lt.mp h
  rcases Decidable.em (b < a) with hlt | hlt
  · exact hlt
  · exact absurd (String.le_antisymm hle (String.not_lt.mp hlt)) hne

/-- A name of the list with a value stored is the stored name or was there before. -/
theorem mem_store {name : String} {value : α} {fields : Fields α} {entry : String × α}
    (h : entry ∈ store name value fields) : entry = (name, value) ∨ entry ∈ fields := by
  induction fields with
  | nil => simpa [store] using h
  | cons head rest ih =>
    obtain ⟨n, v⟩ := head
    unfold store at h
    split at h
    · simpa using h
    · split at h
      · rcases List.mem_cons.mp h with h | h
        · exact Or.inl h
        · exact Or.inr (List.mem_cons_of_mem _ h)
      · rcases List.mem_cons.mp h with h | h
        · exact Or.inr (h ▸ List.mem_cons_self)
        · exact (ih h).imp id (List.mem_cons_of_mem _)

/-- Storing a value keeps the order. -/
theorem ascending_store {fields : Fields α} (h : Ascending fields) (name : String) (value : α) :
    Ascending (store name value fields) := by
  induction fields with
  | nil => simp [store, Ascending]
  | cons head rest ih =>
    obtain ⟨n, v⟩ := head
    have hrest := List.pairwise_cons.mp h
    unfold store
    split
    · next hlt =>
      refine List.pairwise_cons.mpr ⟨?_, h⟩
      intro entry hentry
      rcases List.mem_cons.mp hentry with rfl | hentry
      · exact hlt
      · exact String.lt_trans hlt (hrest.1 entry hentry)
    · next hnlt =>
      split
      · next heq => exact List.pairwise_cons.mpr ⟨fun entry he => heq ▸ hrest.1 entry he, hrest.2⟩
      · next hne =>
        refine List.pairwise_cons.mpr ⟨?_, ih hrest.2⟩
        intro entry hentry
        rcases mem_store hentry with rfl | hentry
        · exact lt_of_not_lt_of_ne hnlt hne
        · exact hrest.1 entry hentry

end Fields

end TupleClient
