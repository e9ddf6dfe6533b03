import TupleClient.Fields
import TupleClient.Number.Binary64

/-!
# Data values

The values that bodies and condition contexts are made of. Whole numbers and doubles are different
values even when they denote the same number. An object is a list of named fields; reading text
stores them in ascending order of name, the last value of a repeated name being kept.

## Main definitions

* `Json` — a data value
* `Json.same` — equality of data: structural, with equal zeros
* `Json.object` — the object with the given fields, in order
* `Json.field?` — a field of an object

## Main results

* `Json.same_refl` — every value is the same as itself
-/

namespace TupleClient

/-- A data value. -/
inductive Json where
  | null
  | bool (value : Bool)
  | int (value : Int)
  | float (value : Binary64)
  | str (value : String)
  | arr (items : List Json)
  | obj (fields : List (String × Json))
deriving Inhabited

namespace Json

/-- The object with the given fields, the last of a repeated name being kept. -/
def object (fields : List (String × Json)) : Json :=
  .obj (Fields.ofList fields)

/-- A field of an object. -/
def field? (name : String) : Json → Option Json
  | .obj fields => Fields.find? name fields
  | _ => none

/-- The text that a value consists of. -/
def text? : Json → Option String
  | .str s => some s
  | _ => none

/-- The text, or null. -/
def ofText? : Option String → Json
  | some s => .str s
  | none => .null

/-- A whole number that is not negative. -/
def nat (n : Nat) : Json := .int n

mutual

/-- Equality of data. Whole numbers differ from doubles, and doubles are compared by value. -/
def same : Json → Json → Bool
  | .null, .null => true
  | .bool a, .bool b => a == b
  | .int a, .int b => a == b
  | .float a, .float b => decide (Binary64.SameValue a b)
  | .str a, .str b => a == b
  | .arr a, .arr b => sameItems a b
  | .obj a, .obj b => sameFields a b
  | _, _ => false

/-- Equality of data, item by item. -/
def sameItems : List Json → List Json → Bool
  | [], [] => true
  | a :: as, b :: bs => same a b && sameItems as bs
  | _, _ => false

/-- Equality of data, field by field. -/
def sameFields : List (String × Json) → List (String × Json) → Bool
  | [], [] => true
  | (m, a) :: as, (n, b) :: bs => m == n && same a b && sameFields as bs
  | _, _ => false

end

mutual

/-- Every value is the same as itself. -/
theorem same_refl : ∀ v : Json, same v v = true
  | .null => rfl
  | .bool _ => by simp [same]
  | .int _ => by simp [same]
  | .float x => by simp [same, Binary64.sameValue_refl]
  | .str _ => by simp [same]
  | .arr items => by simp [same, sameItems_refl items]
  | .obj fields => by simp [same, sameFields_refl fields]

theorem sameItems_refl : ∀ items : List Json, sameItems items items = true
  | [] => rfl
  | v :: rest => by simp [sameItems, same_refl v, sameItems_refl rest]

theorem sameFields_refl : ∀ fields : List (String × Json), sameFields fields fields = true
  | [] => rfl
  | (_, v) :: rest => by simp [sameFields, same_refl v, sameFields_refl rest]

end

end Json

end TupleClient
