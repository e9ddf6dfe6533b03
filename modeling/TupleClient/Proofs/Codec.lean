import TupleClient.WriteBody

/-!
# Reading back what was written

A record is read from an object one field at a time, so what it reads is known once it is known
field by field. Put together along the combinators that records are built with, this shows that the
data of a write body is read back as that body, whatever its tuples and contexts are.

## Main definitions

* `Record.Reads` — a record can be read from the fields of an object, with a given result

## Main results

* `Tuple.decode_encode`, `WriteBody.decode_encode` — data that was written is read back
-/

namespace TupleClient

namespace Record

variable {α β : Type} {fields : Fields Json} {name : String} {decoder : Decoder α}

/-- Every entry passes the check of the record, and the fields are those of `a`. -/
structure Reads (r : Record α) (fields : Fields Json) (a : α) : Prop where
  checked : ∀ entry ∈ fields, r.check entry.1 entry.2 = .ok ()
  read : r.fromFields fields = .ok a

theorem checkAll_eq_ok {r : Record α}
    (checked : ∀ entry ∈ fields, r.check entry.1 entry.2 = .ok ()) :
    r.checkAll fields = .ok () := by
  induction fields with
  | nil => rfl
  | cons entry rest ih =>
    have head := checked entry List.mem_cons_self
    have tail := ih fun e he => checked e (List.mem_cons_of_mem _ he)
    simp [checkAll, head, tail]

/-- What a record reads is what its decoder yields. -/
theorem Reads.decode_eq {r : Record α} {a : α} (h : r.Reads fields a) (name : String) :
    r.decode name (.obj fields) = .ok a := by
  simp [Record.decode, checkAll_eq_ok h.checked, h.read]

theorem Reads.map {r : Record α} {a : α} (h : r.Reads fields a) (g : α → β) :
    (r.map g).Reads fields (g a) :=
  ⟨h.checked, by simp [Record.map, h.read, Except.map]⟩

/-- A function is read before its argument. -/
theorem Reads.seq {f : Record (α → β)} {x : Record α} {g : α → β} {a : α}
    (hf : f.Reads fields g) (hx : x.Reads fields a) : (f.seq x).Reads fields (g a) where
  checked entry member := by simp [Record.seq, hf.checked entry member, hx.checked entry member]
  read := by simp [Record.seq, hf.read, hx.read, Except.map]

private theorem find?_eq_some {v : Json} (present : ∃ entry ∈ fields, entry.1 = name)
    (value : ∀ entry ∈ fields, entry.1 = name → entry.2 = v) :
    Fields.find? name fields = some v := by
  induction fields with
  | nil => simp at present
  | cons entry rest ih =>
    rw [Fields.find?_cons]
    by_cases here : entry.1 = name
    · rw [if_pos here, value entry List.mem_cons_self here]
    · rw [if_neg here]
      refine ih ?_ fun e he => value e (List.mem_cons_of_mem _ he)
      obtain ⟨other, member, named⟩ := present
      rcases List.mem_cons.mp member with rfl | member
      · exact absurd named here
      · exact ⟨other, member, named⟩

theorem find?_eq_none (absent : ∀ entry ∈ fields, entry.1 ≠ name) :
    Fields.find? name fields = none := by
  induction fields with
  | nil => rfl
  | cons entry rest ih =>
    rw [Fields.find?_cons, if_neg (absent entry List.mem_cons_self)]
    exact ih fun e he => absent e (List.mem_cons_of_mem _ he)

/-- A field is read from the one value that stands under its name. -/
theorem Reads.fieldOr {missing : Except DecodeError α}
    {missingItem : String → Nat → Except DecodeError α} {v : Json} {a : α}
    (decoded : decoder v = .ok a) (present : ∃ entry ∈ fields, entry.1 = name)
    (value : ∀ entry ∈ fields, entry.1 = name → entry.2 = v) :
    (Record.fieldOr name decoder missing missingItem).Reads fields a where
  checked entry member := by
    by_cases named : entry.1 = name
    · simp [Record.fieldOr, named, value entry member named, decoded, Except.map]
    · simp [Record.fieldOr, named]
  read := by simp [Record.fieldOr, find?_eq_some present value, decoded]

/-- A field that is absent is its default. -/
theorem Reads.absent {default : α} (absent : ∀ entry ∈ fields, entry.1 ≠ name) :
    (Record.optional name decoder default).Reads fields default where
  checked entry member := by simp [Record.optional, Record.fieldOr, absent entry member]
  read := by simp [Record.optional, Record.fieldOr, find?_eq_none absent]

/-- A field whose entry is left out when there is no value, behind or before other fields. -/
theorem Reads.encodedOption (name : String) {encode : α → Json}
    (decoded : ∀ a, decoder (encode a) = .ok a) (notNull : ∀ a, encode a ≠ .null)
    (a : Option α) (before after : Fields Json)
    (others : ∀ entry ∈ before ++ after, entry.1 ≠ name) :
    (Record.optional name (Decode.option decoder) none).Reads
      (before ++ WriteBody.encodedOption name encode a ++ after) a := by
  cases a with
  | none => exact Reads.absent (by simpa [WriteBody.encodedOption] using others)
  | some a =>
    have option : Decode.option decoder (encode a) = .ok (some a) := by
      have := notNull a
      unfold Decode.option
      split <;> simp_all [Except.map]
    have present : (name, encode a) ∈ before ++ [(name, encode a)] ++ after := by simp
    refine Reads.fieldOr option ⟨_, present, rfl⟩ fun entry member named => ?_
    have : entry ∉ before ++ after := fun other => others entry other named
    simp_all [WriteBody.encodedOption]

end Record

/-! ## Tuples -/

theorem TupleKey.reads (key : TupleKey) (extra : Fields Json)
    (other : ∀ entry ∈ extra, entry.1 = "condition") :
    TupleKey.record.Reads (extra ++ key.encodedFields) key := by
  have own (name text : String) (member : (name, Json.str text) ∈ key.encodedFields)
      (unique : ∀ entry ∈ key.encodedFields, entry.1 = name → entry.2 = .str text)
      (distinct : name ≠ "condition") :
      (Record.field name Decode.text).Reads (extra ++ key.encodedFields) text := by
    refine .fieldOr (v := .str text) rfl ⟨_, List.mem_append_right _ member, rfl⟩
      fun entry present named => ?_
    rcases List.mem_append.mp present with inExtra | inKey
    · exact absurd (named.symm.trans (other entry inExtra)) distinct
    · exact unique entry inKey named
  have user := own "user" key.user (by simp [encodedFields]) (by simp [encodedFields])
    (by decide)
  have relation := own "relation" key.relation (by simp [encodedFields]) (by simp [encodedFields])
    (by decide)
  have object := own "object" key.object (by simp [encodedFields]) (by simp [encodedFields])
    (by decide)
  exact ((user.map TupleKey.mk).seq relation).seq object

/-- A key is read back. -/
theorem TupleKey.decode_encode (key : TupleKey) : TupleKey.decode key.encode = .ok key :=
  (TupleKey.reads key [] (by simp)).decode_eq _

/-- A condition is read back, with an empty context too. -/
theorem Condition.decode_encode (c : Condition) : Condition.decode c.encode = .ok c := by
  have name : (Record.field "name" Decode.text).Reads
      ((if c.context.isEmpty then [] else [("context", .obj c.context)]) ++
        [("name", .str c.name)]) c.name := by
    refine .fieldOr (v := .str c.name) rfl (by simp) fun entry member named => ?_
    rcases List.mem_append.mp member with inContext | inName
    · split at inContext <;> simp_all
    · simp_all
  have context : (Record.optional "context" Decode.fields []).Reads
      ((if c.context.isEmpty then [] else [("context", .obj c.context)]) ++
        [("name", .str c.name)]) c.context := by
    cases c.context with
    | nil => exact .absent (by simp)
    | cons head rest => exact .fieldOr (v := .obj (head :: rest)) rfl (by simp) (by simp)
  exact ((name.map Condition.mk).seq context).decode_eq _

/-- A tuple is read back. -/
theorem Tuple.decode_encode (t : Tuple) : Tuple.decode t.encode = .ok t := by
  obtain ⟨key, condition⟩ := t
  have fields : (Tuple.mk key condition).encode =
      .obj (WriteBody.encodedOption "condition" Condition.encode condition ++
        key.encodedFields) := by
    cases condition <;> rfl
  have keyRead := TupleKey.reads key
    (WriteBody.encodedOption "condition" Condition.encode condition)
    (by cases condition <;> simp [WriteBody.encodedOption])
  have conditionRead := Record.Reads.encodedOption "condition"
    Condition.decode_encode (by simp [Condition.encode]) condition [] key.encodedFields
    (by simp [TupleKey.encodedFields])
  rw [fields]
  exact ((keyRead.map Tuple.mk).seq conditionRead).decode_eq _

/-! ## Bodies -/

/-- A list is read back if its items are. -/
theorem Decode.list_map {α : Type} {item : Decoder α} {encode : α → Json}
    (decoded : ∀ a, item (encode a) = .ok a) (as : List α) :
    Decode.list item (.arr (as.map encode)) = .ok as := by
  induction as with
  | nil => rfl
  | cons a rest ih =>
    simp only [Decode.list] at ih
    simp [Decode.list, Decode.items, decoded a, ih]

theorem Directive.decode_encode (d : Directive) : Directive.decode d.encode = .ok d := by
  cases d <;> rfl

/-- A section of writes is read back. -/
theorem WriteSection.decode_encode (s : WriteSection) :
    WriteSection.decode s.encode = .ok s := by
  have tuples : (Record.field "tuple_keys" (Decode.list Tuple.decode)).Reads
      [("on_duplicate", s.onDuplicate.encode), ("tuple_keys", .arr (s.tuples.map Tuple.encode))]
      s.tuples :=
    .fieldOr (Decode.list_map Tuple.decode_encode s.tuples) (by simp) (by simp)
  exact ((tuples.map WriteSection.mk).seq
    (.fieldOr (Directive.decode_encode s.onDuplicate) (by simp) (by simp))).decode_eq _

/-- A section of deletes is read back. -/
theorem DeleteSection.decode_encode (s : DeleteSection) :
    DeleteSection.decode s.encode = .ok s := by
  have keys : (Record.field "tuple_keys" (Decode.list TupleKey.decode)).Reads
      [("on_missing", s.onMissing.encode), ("tuple_keys", .arr (s.keys.map TupleKey.encode))]
      s.keys :=
    .fieldOr (Decode.list_map TupleKey.decode_encode s.keys) (by simp) (by simp)
  exact ((keys.map DeleteSection.mk).seq
    (.fieldOr (Directive.decode_encode s.onMissing) (by simp) (by simp))).decode_eq _

/-- A body is read back. -/
theorem WriteBody.decode_encode (b : WriteBody) : WriteBody.decode b.encode = .ok b := by
  obtain ⟨writes, deletes, model⟩ := b
  let modelFields := encodedOption "authorization_model_id" Json.str model
  let deleteFields := encodedOption "deletes" DeleteSection.encode deletes
  let writeFields := encodedOption "writes" WriteSection.encode writes
  have writesRead := Record.Reads.encodedOption "writes" WriteSection.decode_encode
    (by simp [WriteSection.encode]) writes (modelFields ++ deleteFields) []
    (by cases model <;> cases deletes <;> simp [modelFields, deleteFields, encodedOption])
  have deletesRead := Record.Reads.encodedOption "deletes" DeleteSection.decode_encode
    (by simp [DeleteSection.encode]) deletes modelFields writeFields
    (by cases model <;> cases writes <;> simp [modelFields, writeFields, encodedOption])
  have textRead (text : String) : Decode.text (.str text) = .ok text := rfl
  have modelRead := Record.Reads.encodedOption "authorization_model_id" textRead (by simp) model []
    (deleteFields ++ writeFields)
    (by cases deletes <;> cases writes <;> simp [deleteFields, writeFields, encodedOption])
  rw [List.append_nil] at writesRead
  rw [List.nil_append, ← List.append_assoc] at modelRead
  exact (((writesRead.map WriteBody.mk).seq deletesRead).seq modelRead).decode_eq _

end TupleClient
