import Mathlib.Data.List.Forall2
import TupleClient.Proofs.Tolerance

/-!
# The data formats of tuples, policies and bodies

Values are written as data and read back from it, and nothing is lost in what is left out. Data that
says the same in another way is read alike: unknown entries of an object are skipped, and the
rejecting directive, an empty context and a null may stand where the field may be missing. A
condition context is kept as it is.

## Main definitions

* `Codec` — a way to write values and to read them
* `Codec.Sound` — what is written is read back, and what is read may vary
* `Tuple.known`, `ConflictPolicy.known`, `WriteBody.known` — the fields of each format

## Main results

* `Tuple.decode_tolerates`, `ConflictPolicy.decode_tolerates`, `WriteBody.decode_tolerates` — each
  format tolerates what its fields tolerate
-/

namespace TupleClient

/-- A way to write values as data and to read them. -/
structure Codec (α : Type) where
  encode : α → Json
  decode : Decoder α
  /-- The numbers of a value are in the range of their fields. -/
  Fits : α → Prop := fun _ => True
  /-- The fields that are known of a value. -/
  known : List KnownField

/-- What is written is read back, what was read can be written and read again, and data that varies
is read alike. -/
structure Codec.Sound {α : Type} (c : Codec α) : Prop where
  decode_encode : ∀ a, c.Fits a → c.decode (c.encode a) = .ok a
  decode_again : ∀ v a, c.decode v = .ok a → c.decode (c.encode a) = .ok a
  decode_varied : ∀ v w a, Record.Varies c.known v w → c.decode v = .ok a → c.decode w = .ok a

/-! ## Kinds of fields -/

/-- The data that says that a conflict is rejected. -/
inductive Directive.Rejects : Json → Prop
  | name : Rejects (.str "error")
  | object : Rejects (.obj [("error", .null)])

/-- Two lists have the same length, and their items vary. -/
def Json.ListVaries (varies : Json → Json → Prop) : Json → Json → Prop
  | .arr items, .arr others => List.Forall₂ varies items others
  | _, _ => False

namespace KnownField

/-- A field whose value is null if there is none. -/
def nullable (name : String) (varies : Json → Json → Prop := Eq) : KnownField :=
  { name := name, silent := (· = .null), varies := varies }

/-- A field with a directive. -/
def directive (name : String) : KnownField :=
  { name := name, silent := Directive.Rejects }

end KnownField

theorem Directive.decode_of_rejects (v : Json) (h : Rejects v) : decode v = .ok .error := by
  cases h <;> rfl

namespace Decode

variable {α : Type} {varies : Json → Json → Prop}

theorem option_tolerates {decoder : Decoder α} {known : List KnownField}
    (tolerates : decoder.Tolerates (Record.Varies known)) :
    (option decoder).Tolerates (Record.Varies known) := by
  intro v w a h decoded
  have some {u : Json} (notNull : u ≠ .null) : option decoder u = (decoder u).map Option.some := by
    unfold option
    split
    · contradiction
    · rfl
  -- Only null stands in the place of null, so both values are of the same case.
  by_cases null : v = .null
  · rwa [h.eq_null_iff.mp null, ← null]
  · rw [some null] at decoded
    rw [some (mt h.eq_null_iff.mpr null)]
    cases read : decoder v with
    | error e => simp [read, Except.map] at decoded
    | ok b => rwa [tolerates h read, ← read]

theorem list_tolerates {item : Decoder α} (tolerates : item.Tolerates varies) :
    (list item).Tolerates (Json.ListVaries varies) := by
  intro v w as h decoded
  cases v <;> cases w <;> simp only [Json.ListVaries] at h
  next vs ws =>
  simp only [list] at decoded ⊢
  -- Induction on both lists at once. The lists are read item by item.
  induction h generalizing as with
  | nil => exact decoded
  | @cons v w vs ws head rest ih =>
    rw [items] at decoded ⊢
    split at decoded
    · simp at decoded
    · next a first =>
      rw [tolerates head first]
      split at decoded
      · simp at decoded
      · next as' others =>
        rw [ih others]
        exact decoded

end Decode

namespace Record

variable {α : Type} {known : List KnownField} {decoder : Decoder α}

theorem Follows.required (name : String) {varies : Json → Json → Prop}
    (distinct : (known.map KnownField.name).Nodup)
    (member : { name := name, varies := varies } ∈ known) (tolerates : decoder.Tolerates varies) :
    Follows known [{ name := name, varies := varies }] (Record.field name decoder) :=
  .fieldOr (k := { name := name, varies := varies }) distinct member tolerates (by simp)

theorem Follows.withDefault (k : KnownField) (default : α)
    (distinct : (known.map KnownField.name).Nodup) (member : k ∈ known)
    (tolerates : decoder.Tolerates k.varies)
    (silent : ∀ v, k.silent v → decoder v = .ok default) :
    Follows known [k] (optional k.name decoder default) :=
  .fieldOr distinct member tolerates fun v quiet => ⟨default, silent v quiet, rfl⟩

/-- A field whose value is kept as it is. -/
theorem Follows.plain (name : String) (decoder : Decoder α) (default : α)
    (distinct : (known.map KnownField.name).Nodup) (member : { name := name } ∈ known) :
    Follows known [{ name := name }] (optional name decoder default) :=
  .withDefault { name := name } default distinct member (Decoder.tolerates_eq _) (by simp)

theorem Follows.directive (name : String) (distinct : (known.map KnownField.name).Nodup)
    (member : KnownField.directive name ∈ known) :
    Follows known [KnownField.directive name] (optional name Directive.decode .error) :=
  .withDefault (KnownField.directive name) Directive.error distinct member (Decoder.tolerates_eq _)
    Directive.decode_of_rejects

end Record

/-! ## Tuples -/

open Record

namespace TupleKey

/-- The fields of a key. -/
def known : List KnownField := [{ name := "user" }, { name := "relation" }, { name := "object" }]

/-- A key is read alike as a part of a greater record too. -/
theorem follows {all : List KnownField} (distinct : (all.map KnownField.name).Nodup)
    (included : known ⊆ all) : Follows all known record := by
  have text (name : String) (member : { name := name } ∈ known) :
      Follows all [{ name := name }] (Record.field name Decode.text) :=
    .required name distinct (included member) (Decoder.tolerates_eq _)
  have user := text "user" (by simp [known])
  have relation := text "relation" (by simp [known])
  have object := text "object" (by simp [known])
  exact (((user.map TupleKey.mk).seq relation).seq object :)

theorem decode_tolerates : TupleKey.decode.Tolerates (Varies known) :=
  (follows (by decide) (List.Subset.refl _)).tolerates _

end TupleKey

namespace Condition

/-- The fields of a condition. An empty context may as well be missing. -/
def known : List KnownField :=
  [{ name := "name" }, { name := "context", silent := (· = .obj []) }]

theorem decode_tolerates : Condition.decode.Tolerates (Varies known) := by
  have distinct : (known.map KnownField.name).Nodup := by decide
  have name : Follows known [{ name := "name" }] (Record.field "name" Decode.text) :=
    .required "name" distinct (by simp [known]) (Decoder.tolerates_eq _)
  have context := Follows.withDefault { name := "context", silent := (· = .obj []) } []
    distinct (by simp [known]) (Decoder.tolerates_eq Decode.fields) (by simp [Decode.fields])
  have both : Follows known known record := ((name.map Condition.mk).seq context :)
  exact both.tolerates _

end Condition

namespace Tuple

/-- The fields of a tuple. -/
def known : List KnownField :=
  TupleKey.known ++ [KnownField.nullable "condition" (Varies Condition.known)]

theorem decode_tolerates : Tuple.decode.Tolerates (Varies known) := by
  have distinct : (known.map KnownField.name).Nodup := by decide
  have key := TupleKey.follows distinct (List.subset_append_left _ _)
  have condition := Follows.withDefault
    (KnownField.nullable "condition" (Varies Condition.known)) none distinct (by simp [known])
    (Decode.option_tolerates Condition.decode_tolerates) (by rintro v rfl; rfl)
  have both : Follows known known record := ((key.map Tuple.mk).seq condition :)
  exact both.tolerates _

-- A note that no tuple knows is added, and the missing condition is made explicit.
example : Varies known
    (.obj [("object", .str "document:x"), ("relation", .str "viewer"), ("user", .str "user:anne")])
    (.obj [("condition", .null), ("note", .str "new"), ("object", .str "document:x"),
      ("relation", .str "viewer"), ("user", .str "user:anne")]) :=
  .trans
    (.adds (@Adds.unknown known [] _ "note" (.str "new") (by decide)))
    (.adds (@Adds.silent known [] _ (.nullable "condition" (Varies Condition.known)) .null
      (by simp [known]) rfl (by decide)))

end Tuple

/-! ## Policies and bodies -/

namespace ConflictPolicy

/-- The fields of a policy. -/
def known : List KnownField :=
  [KnownField.directive "on_duplicate_write", KnownField.directive "on_missing_delete"]

/-- A policy is read back. -/
theorem decode_encode (p : ConflictPolicy) : ConflictPolicy.decode p.encode = .ok p := by
  have onDuplicate : (Record.optional "on_duplicate_write" Directive.decode .error).Reads
      [("on_duplicate_write", p.onDuplicateWrite.encode),
        ("on_missing_delete", p.onMissingDelete.encode)] p.onDuplicateWrite :=
    .fieldOr (Directive.decode_encode _) (by simp) (by simp)
  exact ((onDuplicate.map ConflictPolicy.mk).seq
    (.fieldOr (Directive.decode_encode p.onMissingDelete) (by simp) (by simp))).decode_eq _

theorem decode_tolerates : ConflictPolicy.decode.Tolerates (Varies known) := by
  have distinct : (known.map KnownField.name).Nodup := by decide
  have onDuplicate := Follows.directive "on_duplicate_write" distinct (by simp [known])
  have onMissing := Follows.directive "on_missing_delete" distinct (by simp [known])
  have both : Follows known known _ := ((onDuplicate.map ConflictPolicy.mk).seq onMissing :)
  exact both.tolerates _

end ConflictPolicy

/-- A section of a body tolerates what its items tolerate, and the rejecting directive. -/
theorem Decode.section_tolerates {α β : Type} {item : Decoder α} {itemFields : List KnownField}
    (tolerates : item.Tolerates (Varies itemFields)) (mk : List α → Directive → β)
    {directive : String} (distinct : "tuple_keys" ≠ directive) (name : String) :
    (Record.decode name (((Record.field "tuple_keys" (Decode.list item)).map mk).seq
      (Record.optional directive Directive.decode .error))).Tolerates
        (Varies [{ name := "tuple_keys", varies := Json.ListVaries (Varies itemFields) },
          KnownField.directive directive]) := by
  let known : List KnownField :=
    [{ name := "tuple_keys", varies := Json.ListVaries (Varies itemFields) },
      KnownField.directive directive]
  have names : (known.map KnownField.name).Nodup := by
    simpa [known, KnownField.directive] using distinct
  have tuples := Follows.required "tuple_keys" names (by simp [known])
    (Decode.list_tolerates tolerates)
  have onConflict := Follows.directive directive names (by simp [known])
  have both : Follows known known _ := ((tuples.map mk).seq onConflict :)
  exact both.tolerates name

/-- The fields of a section of writes. -/
def WriteSection.known : List KnownField :=
  [{ name := "tuple_keys", varies := Json.ListVaries (Varies Tuple.known) },
    KnownField.directive "on_duplicate"]

/-- The fields of a section of deletes. -/
def DeleteSection.known : List KnownField :=
  [{ name := "tuple_keys", varies := Json.ListVaries (Varies TupleKey.known) },
    KnownField.directive "on_missing"]

theorem WriteSection.decode_tolerates : WriteSection.decode.Tolerates (Varies known) :=
  Decode.section_tolerates Tuple.decode_tolerates _ (by decide) _

theorem DeleteSection.decode_tolerates : DeleteSection.decode.Tolerates (Varies known) :=
  Decode.section_tolerates TupleKey.decode_tolerates _ (by decide) _

namespace WriteBody

/-- The fields of a body. -/
def known : List KnownField :=
  [KnownField.nullable "writes" (Varies WriteSection.known),
    KnownField.nullable "deletes" (Varies DeleteSection.known),
    KnownField.nullable "authorization_model_id"]

theorem decode_tolerates : WriteBody.decode.Tolerates (Varies known) := by
  have distinct : (known.map KnownField.name).Nodup := by decide
  have writes := Follows.withDefault
    (KnownField.nullable "writes" (Varies WriteSection.known)) none distinct (by simp [known])
    (Decode.option_tolerates WriteSection.decode_tolerates) (by rintro v rfl; rfl)
  have deletes := Follows.withDefault
    (KnownField.nullable "deletes" (Varies DeleteSection.known)) none distinct (by simp [known])
    (Decode.option_tolerates DeleteSection.decode_tolerates) (by rintro v rfl; rfl)
  have model := Follows.withDefault (KnownField.nullable "authorization_model_id") none
    distinct (by simp [known])
    (Decoder.tolerates_eq (Decode.option Decode.text)) (by rintro v rfl; rfl)
  have all : Follows known known _ := (((writes.map WriteBody.mk).seq deletes).seq model :)
  exact all.tolerates _

end WriteBody

end TupleClient
