import Mathlib.Data.List.Nodup
import TupleClient.Proofs.Codec

/-!
# What data may add or leave out

A record is read alike from different data. In an object, entries that the record does not know are
skipped, and an entry that says no more than its absence may as well be left out. Inside a field,
and at a position of an array, the data may vary as the field allows. Nothing of this changes what
is read, provided that it holds of each field, so it holds of all records that are put together from
fields whose names differ.

## Main definitions

* `KnownField` — what is known of a field of a record
* `Record.Varies` — which data may stand in the place of which
* `Decoder.Tolerates` — a decoder yields the same from data that may stand in each other's place
* `Record.Follows` — a record is read alike from objects and arrays that vary

## Main results

* `Record.Follows.fieldOr`, `Record.Follows.seq` — how records are put together
* `Record.Follows.tolerates` — a record tolerates what its fields tolerate
-/

namespace TupleClient

/-- What is known of a field of a record. -/
structure KnownField where
  name : String
  /-- The values that say no more than that the field is missing. -/
  silent : Json → Prop := fun _ => False
  /-- What may stand in the place of a value. -/
  varies : Json → Json → Prop := Eq

/-- A decoder yields the same from data that may stand in each other's place. -/
def Decoder.Tolerates {α : Type} (decoder : Decoder α) (varies : Json → Json → Prop) : Prop :=
  ∀ ⦃v w : Json⦄ ⦃a : α⦄, varies v w → decoder v = .ok a → decoder w = .ok a

theorem Decoder.tolerates_eq {α : Type} (decoder : Decoder α) : decoder.Tolerates Eq := by
  rintro v w a rfl decoded
  exact decoded

theorem Fields.find?_append {α : Type} {name : String} (as bs : Fields α) :
    find? name (as ++ bs) = (find? name as).or (find? name bs) := by
  induction as with
  | nil => rfl
  | cons entry rest ih =>
    rw [List.cons_append, find?_cons, find?_cons, ih]
    split <;> rfl

/-! ## Variations of data -/

namespace Record

section

variable (known : List KnownField)

/-- An object has one entry more than another, and it says nothing. -/
inductive Adds : Fields Json → Fields Json → Prop
  /-- The record does not know its name. -/
  | unknown {before after : Fields Json} {name : String} {v : Json}
      (other : ∀ k ∈ known, k.name ≠ name) :
      Adds (before ++ after) (before ++ (name, v) :: after)
  /-- Its value says no more than that the field is missing, as it is in the other object. -/
  | silent {before after : Fields Json} {k : KnownField} {v : Json} (member : k ∈ known)
      (silent : k.silent v) (absent : ∀ entry ∈ before ++ after, entry.1 ≠ k.name) :
      Adds (before ++ after) (before ++ (k.name, v) :: after)

/-- Two arrays are the same, or differ at the position of a field as the field allows. -/
inductive ItemVaries : List KnownField → List Json → List Json → Prop
  | same {known : List KnownField} (items : List Json) : ItemVaries known items items
  | here {known : List KnownField} {k : KnownField} {v w : Json} {rest : List Json}
      (varies : k.varies v w) : ItemVaries (k :: known) (v :: rest) (w :: rest)
  | later {known : List KnownField} {k : KnownField} {v : Json} {items others : List Json}
      (rest : ItemVaries known items others) : ItemVaries (k :: known) (v :: items) (v :: others)

/-- Which data may stand in the place of which for a record with these fields. -/
inductive Varies : Json → Json → Prop
  | refl (v : Json) : Varies v v
  | trans {u v w : Json} (first : Varies u v) (second : Varies v w) : Varies u w
  | adds {fields more : Fields Json} (h : Adds known fields more) :
      Varies (.obj fields) (.obj more)
  | drops {fields fewer : Fields Json} (h : Adds known fewer fields) :
      Varies (.obj fields) (.obj fewer)
  | field {before after : Fields Json} {k : KnownField} {v w : Json} (member : k ∈ known)
      (varies : k.varies v w) :
      Varies (.obj (before ++ (k.name, v) :: after)) (.obj (before ++ (k.name, w) :: after))
  | item {items others : List Json} (h : ItemVaries known items others) :
      Varies (.arr items) (.arr others)

end

/-- Data without fields or items does not vary. -/
theorem Varies.eq_null_iff {known : List KnownField} {v w : Json} (h : Varies known v w) :
    v = .null ↔ w = .null := by
  induction h with
  | refl v => rfl
  | trans first second ih ih' => exact ih.trans ih'
  | adds h => simp
  | drops h => simp
  | field member varies => simp
  | item h => simp

/-! ## What a record reads -/

section

variable {α β : Type} {fields : Fields Json} {items left : List Json} {name expected : String}
  {position : ℕ} {a : α} {b : β}

theorem checkAll_eq_ok_iff {r : Record α} :
    r.checkAll fields = .ok () ↔ ∀ entry ∈ fields, r.check entry.1 entry.2 = .ok () := by
  refine ⟨fun checked => ?_, checkAll_eq_ok⟩
  induction fields with
  | nil => simp
  | cons entry rest ih =>
    obtain ⟨n, v⟩ := entry
    rw [checkAll] at checked
    split at checked
    · simp at checked
    · next head =>
      intro entry member
      rcases List.mem_cons.mp member with rfl | member
      · exact head
      · exact ih checked entry member

theorem decode_obj_eq_ok_iff {r : Record α} :
    r.decode name (.obj fields) = .ok a ↔ r.Reads fields a := by
  refine ⟨fun decoded => ?_, fun read => read.decode_eq name⟩
  rw [decode] at decoded
  split at decoded
  · simp at decoded
  · next checked => exact ⟨checkAll_eq_ok_iff.mp checked, decoded⟩

theorem decode_arr_eq_ok_iff {r : Record α} :
    r.decode name (.arr items) = .ok a ↔
      r.fromItems ("struct " ++ name ++ " with " ++ toString r.size ++ " elements") 0 items =
        .ok (a, []) := by
  rw [decode]
  split <;> simp_all

theorem reads_map_iff {r : Record α} {g : α → β} :
    (r.map g).Reads fields b ↔ ∃ a, r.Reads fields a ∧ g a = b := by
  constructor
  · rintro ⟨checked, read⟩
    simp only [map] at checked read
    cases own : r.fromFields fields with
    | error e => simp [own, Except.map] at read
    | ok a => exact ⟨a, ⟨checked, own⟩, by simpa [own, Except.map] using read⟩
  · rintro ⟨a, read, rfl⟩
    exact read.map g

theorem fromItems_map_iff {r : Record α} {g : α → β} :
    (r.map g).fromItems expected position items = .ok (b, left) ↔
      ∃ a, r.fromItems expected position items = .ok (a, left) ∧ g a = b := by
  simp only [map]
  cases r.fromItems expected position items with
  | error e => simp [Except.map]
  | ok read => grind [Except.map]

theorem reads_seq_iff {f : Record (α → β)} {x : Record α} :
    (f.seq x).Reads fields b ↔ ∃ g a, f.Reads fields g ∧ x.Reads fields a ∧ g a = b := by
  constructor
  · rintro ⟨checked, read⟩
    have both : ∀ entry ∈ fields,
        f.check entry.1 entry.2 = .ok () ∧ x.check entry.1 entry.2 = .ok () := by
      intro entry member
      have passed := checked entry member
      simp only [seq] at passed
      split at passed
      · simp at passed
      · next first => exact ⟨first, passed⟩
    simp only [seq] at read
    split at read
    · simp at read
    · next g function =>
      cases argument : x.fromFields fields with
      | error e => simp [argument, Except.map] at read
      | ok a =>
        refine ⟨g, a, ⟨fun entry member => (both entry member).1, function⟩,
          ⟨fun entry member => (both entry member).2, argument⟩, ?_⟩
        simpa [argument, Except.map] using read
  · rintro ⟨g, a, function, argument, rfl⟩
    exact function.seq argument

/-- The argument is read from the items that the function leaves. -/
theorem fromItems_seq_iff {f : Record (α → β)} {x : Record α} :
    (f.seq x).fromItems expected position items = .ok (b, left) ↔
      ∃ g rest a, f.fromItems expected position items = .ok (g, rest) ∧
        x.fromItems expected (position + f.size) rest = .ok (a, left) ∧ g a = b := by
  simp only [seq]
  cases f.fromItems expected position items with
  | error e => simp
  | ok function =>
    obtain ⟨g, rest⟩ := function
    dsimp only
    cases argument : x.fromItems expected (position + f.size) rest with
    | error e => simp [argument, Except.map]
    | ok read => grind [Except.map]

variable {decoder : Decoder α} {missing : Except DecodeError α}
  {missingItem : String → Nat → Except DecodeError α}

/-- A field is read if every value under its name can be read, and it is the first one of them. -/
theorem reads_fieldOr_iff :
    (fieldOr name decoder missing missingItem).Reads fields a ↔
      (∀ v, (name, v) ∈ fields → ∃ a, decoder v = .ok a) ∧
        (Fields.find? name fields).elim missing decoder = .ok a := by
  have checks (entry : String × Json) :
      (fieldOr name decoder missing missingItem).check entry.1 entry.2 = .ok () ↔
        (entry.1 = name → ∃ a, decoder entry.2 = .ok a) := by
    by_cases named : entry.1 = name
    · cases decoded : decoder entry.2 <;> simp [fieldOr, named, decoded, Except.map]
    · simp [fieldOr, named]
  have reads : (fieldOr name decoder missing missingItem).fromFields fields =
      (Fields.find? name fields).elim missing decoder := by
    simp only [fieldOr]
    cases Fields.find? name fields <;> rfl
  constructor
  · rintro ⟨checked, read⟩
    exact ⟨fun v member => (checks (name, v)).mp (checked _ member) rfl, reads ▸ read⟩
  · rintro ⟨checked, read⟩
    refine ⟨fun entry member => (checks entry).mpr ?_, reads.trans read⟩
    rintro rfl
    exact checked entry.2 member

theorem fromItems_fieldOr_cons_iff {v : Json} {rest : List Json} :
    (fieldOr name decoder missing missingItem).fromItems expected position (v :: rest) =
      .ok (a, left) ↔ decoder v = .ok a ∧ rest = left := by
  simp only [fieldOr]
  cases decoder v <;> simp [Except.map]

/-- An entry under another name is neither checked nor read. -/
theorem reads_fieldOr_insert_of_ne {before after : Fields Json} {other : String} (v : Json)
    (distinct : other ≠ name) :
    (fieldOr name decoder missing missingItem).Reads (before ++ (other, v) :: after) a ↔
      (fieldOr name decoder missing missingItem).Reads (before ++ after) a := by
  simp [reads_fieldOr_iff, Fields.find?_append, Fields.find?_cons, distinct, distinct.symm]

/-- A field whose only entry is its default may as well be missing. -/
theorem reads_fieldOr_insert_of_absent {before after : Fields Json} {v : Json} {default : α}
    (decoded : decoder v = .ok default)
    (absent : ∀ entry ∈ before ++ after, entry.1 ≠ name) :
    (fieldOr name decoder (.ok default) missingItem).Reads (before ++ (name, v) :: after) a ↔
      (fieldOr name decoder (.ok default) missingItem).Reads (before ++ after) a := by
  have absentBefore : Fields.find? name before = none :=
    find?_eq_none fun entry front => absent entry (List.mem_append_left _ front)
  have unnamed (w : Json) : (name, w) ∉ before ++ after := fun there => absent _ there rfl
  simp only [List.mem_append, not_or] at unnamed
  rw [reads_fieldOr_iff, reads_fieldOr_iff, find?_eq_none absent, Fields.find?_append, absentBefore]
  simp [Fields.find?_cons, decoded, unnamed]

/-- The value of a field may vary as its decoder tolerates. -/
theorem reads_fieldOr_replace {before after : Fields Json} {v w : Json}
    {varies : Json → Json → Prop} (tolerates : decoder.Tolerates varies) (h : varies v w)
    (read : (fieldOr name decoder missing missingItem).Reads (before ++ (name, v) :: after) a) :
    (fieldOr name decoder missing missingItem).Reads (before ++ (name, w) :: after) a := by
  rw [reads_fieldOr_iff] at read ⊢
  obtain ⟨checked, found⟩ := read
  -- All entries with the name are checked, also those that are not read.
  refine ⟨fun u there => ?_, ?_⟩
  · rcases List.mem_append.mp there with front | there
    · exact checked u (by simp [front])
    · rcases List.mem_cons.mp there with same | back
      · obtain ⟨b, decoded⟩ := checked v (by simp)
        obtain ⟨-, rfl⟩ := Prod.mk.inj same
        exact ⟨b, tolerates h decoded⟩
      · exact checked u (by simp [back])
  · rw [Fields.find?_append, Fields.find?_cons, if_pos rfl] at found ⊢
    cases front : Fields.find? name before with
    | none =>
      rw [front] at found
      exact tolerates h found
    | some u => rwa [front] at found

end

/-! ## Records of fields -/

variable {α β : Type} {known own own' : List KnownField}

/-- A record reads the same from objects that vary in the fields that are known, and from arrays
that vary at the positions of its own fields, whatever comes behind these. -/
structure Follows (known own : List KnownField) (r : Record α) : Prop where
  adds : ∀ {fields more : Fields Json}, Adds known fields more → ∀ a,
    r.Reads more a ↔ r.Reads fields a
  field : ∀ {before after : Fields Json} {k : KnownField} {v w : Json} {a : α}, k ∈ known →
    k.varies v w → r.Reads (before ++ (k.name, v) :: after) a →
      r.Reads (before ++ (k.name, w) :: after) a
  items : ∀ {more : List KnownField} {items others left : List Json} {expected : String}
    {position : ℕ} {a : α}, ItemVaries (own ++ more) items others →
      r.fromItems expected position items = .ok (a, left) →
        ∃ left', r.fromItems expected position others = .ok (a, left') ∧ ItemVaries more left left'

/-- A single field follows what is known of it. -/
theorem Follows.fieldOr {k : KnownField} {decoder : Decoder α} {missing : Except DecodeError α}
    {missingItem : String → Nat → Except DecodeError α}
    (distinct : (known.map KnownField.name).Nodup) (member : k ∈ known)
    (tolerates : decoder.Tolerates k.varies)
    (silent : ∀ v, k.silent v → ∃ default, decoder v = .ok default ∧ missing = .ok default) :
    Follows known [k] (Record.fieldOr k.name decoder missing missingItem) where
  adds adds a := by
    cases adds with
    | unknown other => exact reads_fieldOr_insert_of_ne _ (other k member).symm
    | @silent before after other v also quiet absent =>
      -- A silent entry is of this field or of another one, since the names tell fields apart.
      by_cases named : other.name = k.name
      · obtain rfl := List.inj_on_of_nodup_map distinct also member named
        obtain ⟨default, decoded, rfl⟩ := silent v quiet
        exact reads_fieldOr_insert_of_absent decoded absent
      · exact reads_fieldOr_insert_of_ne v named
  field {before after other v w a} also varies read := by
    by_cases named : other.name = k.name
    · obtain rfl := List.inj_on_of_nodup_map distinct also member named
      exact reads_fieldOr_replace tolerates varies read
    · rw [reads_fieldOr_insert_of_ne _ named] at read ⊢
      exact read
  items {more items others left expected position a} varies read := by
    cases varies with
    | same => exact ⟨left, read, .same left⟩
    | here varies =>
      obtain ⟨decoded, rfl⟩ := fromItems_fieldOr_cons_iff.mp read
      exact ⟨_, fromItems_fieldOr_cons_iff.mpr ⟨tolerates varies decoded, rfl⟩, .same _⟩
    | later rest =>
      obtain ⟨decoded, rfl⟩ := fromItems_fieldOr_cons_iff.mp read
      exact ⟨_, fromItems_fieldOr_cons_iff.mpr ⟨decoded, rfl⟩, rest⟩

theorem Follows.map {r : Record α} (h : Follows known own r) (g : α → β) :
    Follows known own (r.map g) where
  adds adds b := by simp only [reads_map_iff, h.adds adds]
  field member varies read := by
    obtain ⟨a, argument, rfl⟩ := reads_map_iff.mp read
    exact reads_map_iff.mpr ⟨a, h.field member varies argument, rfl⟩
  items varies read := by
    obtain ⟨a, argument, rfl⟩ := fromItems_map_iff.mp read
    obtain ⟨left', argument', rest⟩ := h.items varies argument
    exact ⟨left', fromItems_map_iff.mpr ⟨a, argument', rfl⟩, rest⟩

/-- The fields of a record are those that are read first and those that are read next. -/
theorem Follows.seq {f : Record (α → β)} {x : Record α} (hf : Follows known own f)
    (hx : Follows known own' x) : Follows known (own ++ own') (f.seq x) where
  adds adds b := by simp only [reads_seq_iff, hf.adds adds, hx.adds adds]
  field member varies read := by
    obtain ⟨g, a, function, argument, rfl⟩ := reads_seq_iff.mp read
    exact reads_seq_iff.mpr
      ⟨g, a, hf.field member varies function, hx.field member varies argument, rfl⟩
  items varies read := by
    obtain ⟨g, rest, a, function, argument, rfl⟩ := fromItems_seq_iff.mp read
    -- What varies behind the fields of the function is left for its argument.
    rw [List.append_assoc] at varies
    obtain ⟨rest', function', varies⟩ := hf.items varies function
    obtain ⟨left', argument', varies⟩ := hx.items varies argument
    exact ⟨left', fromItems_seq_iff.mpr ⟨g, rest', a, function', argument', rfl⟩, varies⟩

/-- A record of known fields tolerates what its fields tolerate. -/
theorem Follows.tolerates {r : Record α} (h : Follows known known r) (name : String) :
    (r.decode name).Tolerates (Varies known) := by
  intro v w a varies decoded
  induction varies with
  | refl v => exact decoded
  | trans first second ih ih' => exact ih' (ih decoded)
  | adds more =>
    rw [decode_obj_eq_ok_iff] at decoded ⊢
    exact (h.adds more a).mpr decoded
  | drops fewer =>
    rw [decode_obj_eq_ok_iff] at decoded ⊢
    exact (h.adds fewer a).mp decoded
  | field member varies =>
    rw [decode_obj_eq_ok_iff] at decoded ⊢
    exact h.field member varies decoded
  | @item items others varies =>
    rw [decode_arr_eq_ok_iff] at decoded ⊢
    -- No items are left behind the last field, so none of them varies.
    have padded : ItemVaries (known ++ []) items others := by rwa [List.append_nil]
    obtain ⟨left, read, rest⟩ := h.items padded decoded
    cases rest
    exact read

end Record

end TupleClient
