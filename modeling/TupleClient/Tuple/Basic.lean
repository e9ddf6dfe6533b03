import TupleClient.Json.Basic

/-!
# Relationship tuples

A tuple says that a user stands in a relation to an object, possibly under a condition. Its key is
what it says without the condition; a store holds at most one tuple per key.

## Main definitions

* `TupleKey`, `Condition`, `Tuple` — the data, a tuple being a key with an optional condition
* `TupleKey.render` — the text of a key, `object#relation@user`
* `Condition.same`, `Tuple.same` — equality, contexts being compared as data
* `Tuple.Defect` — what can be wrong with a tuple, and `Tuple.defect?`, the first such thing
* `Tuple.WellFormed` — nothing is wrong

## Main results

* `Tuple.defect?_eq_none_iff` — the first defect is absent exactly from well-formed tuples
-/

namespace TupleClient

/-- Who stands in which relation to what. -/
structure TupleKey where
  user : String
  relation : String
  object : String
deriving DecidableEq, Inhabited

namespace TupleKey

/-- The text of a key. -/
def render (key : TupleKey) : String :=
  key.object ++ "#" ++ key.relation ++ "@" ++ key.user

end TupleKey

/-- A named condition with the values of its parameters. -/
structure Condition where
  name : String
  context : Fields Json := []
deriving Inhabited

namespace Condition

/-- Conditions are the same if their names are equal and their contexts the same data. -/
def same (a b : Condition) : Bool :=
  a.name == b.name && Json.sameFields a.context b.context

/-- Optional conditions are the same if both are absent or both are the same condition. -/
def sameOption : Option Condition → Option Condition → Bool
  | none, none => true
  | some a, some b => same a b
  | _, _ => false

theorem same_refl (c : Condition) : same c c = true := by
  simp [same, Json.sameFields_refl]

theorem sameOption_refl (c : Option Condition) : sameOption c c = true := by
  cases c <;> simp [sameOption, same_refl]

end Condition

/-- A key with an optional condition. -/
structure Tuple extends TupleKey where
  condition : Option Condition := none
deriving Inhabited

namespace Tuple

/-- The key of a tuple. -/
abbrev key (t : Tuple) : TupleKey := t.toTupleKey

/-- The text of a tuple is that of its key. -/
def render (t : Tuple) : String := t.key.render

/-- Tuples are the same if their keys are equal and their conditions the same. -/
def same (a b : Tuple) : Bool :=
  a.key == b.key && Condition.sameOption a.condition b.condition

/-- What can be wrong with a tuple. -/
inductive Defect where
  | emptyUser
  | emptyRelation
  | emptyObject
  /-- The object does not say its type. -/
  | untypedObject
  | unnamedCondition
  /-- A tuple to be deleted has a condition. -/
  | conditionOnDelete
deriving DecidableEq

/-- The text of a defect. -/
def Defect.message : Defect → String
  | emptyUser => "user cannot be empty"
  | emptyRelation => "relation cannot be empty"
  | emptyObject => "object cannot be empty"
  | untypedObject => "object must be in 'type:id' format"
  | unnamedCondition => "condition name cannot be empty"
  | conditionOnDelete => "deletes cannot carry a condition"

/-- The object names its type and its identifier with a colon between them. -/
def IsTyped (object : String) : Prop := ':' ∈ object.toList

instance (object : String) : Decidable (IsTyped object) :=
  inferInstanceAs (Decidable (_ ∈ _))

/-- The condition, if there is one, has a name. -/
def HasNamedCondition (t : Tuple) : Prop :=
  ∀ c, t.condition = some c → c.name ≠ ""

/-- No part of the tuple is empty, its object is typed and its condition is named. -/
structure WellFormed (t : Tuple) : Prop where
  user : t.user ≠ ""
  relation : t.relation ≠ ""
  object : t.object ≠ ""
  typed : IsTyped t.object
  condition : t.HasNamedCondition

/-- The first thing wrong with a tuple, apart from what it is used for. -/
def defect? (t : Tuple) : Option Defect :=
  if t.user = "" then some .emptyUser
  else if t.relation = "" then some .emptyRelation
  else if t.object = "" then some .emptyObject
  else if ¬ IsTyped t.object then some .untypedObject
  else match t.condition with
    | some c => if c.name = "" then some .unnamedCondition else none
    | none => none

/-- The first thing wrong with a tuple that is to be deleted. -/
def deleteDefect? (t : Tuple) : Option Defect :=
  match t.defect? with
  | some d => some d
  | none => if t.condition.isSome then some .conditionOnDelete else none

/-- Exactly the well-formed tuples have no defect. -/
theorem defect?_eq_none_iff (t : Tuple) : t.defect? = none ↔ t.WellFormed := by
  constructor
  · intro h
    unfold defect? at h
    split at h; · simp at h
    split at h; · simp at h
    split at h; · simp at h
    split at h; · simp at h
    next hu hr ho ht =>
    refine ⟨hu, hr, ho, Decidable.not_not.mp ht, ?_⟩
    intro c hc
    rw [hc] at h
    intro hn
    simp [hn] at h
  · intro h
    unfold defect?
    rw [if_neg h.user, if_neg h.relation, if_neg h.object, if_neg (not_not_intro h.typed)]
    split
    · next c hc => rw [if_neg (h.condition c hc)]
    · rfl

/-- Exactly the well-formed tuples without a condition can be deleted. -/
theorem deleteDefect?_eq_none_iff (t : Tuple) :
    t.deleteDefect? = none ↔ t.WellFormed ∧ t.condition = none := by
  unfold deleteDefect?
  split
  · next d hd =>
    have : ¬ t.WellFormed := fun h => by simp [(defect?_eq_none_iff t).mpr h] at hd
    simp [this]
  · next hd =>
    have : t.WellFormed := (defect?_eq_none_iff t).mp hd
    cases hc : t.condition <;> simp [this]

end Tuple

end TupleClient
