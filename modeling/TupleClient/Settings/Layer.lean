import TupleClient.Fields
import TupleClient.Number.Binary64
import TupleClient.Text.Blank
import TupleClient.Text.LowerCase

/-!
# Layers of settings

Settings are gathered from layers. Each layer sets values under keys, and what a later layer sets
replaces what an earlier one has set, except that tables are merged key by key. Keys are set in
small letters.

A key of a layer may be a path into the tables: names separated by points, and positions of lists in
brackets. A key that does not have this form is a name as it is.

## Main definitions

* `Setting` — a value that has been set, with the source that it comes from
* `Setting.put` — a table with a value set under a name
* `KeyPath` and `Setting.setAt` — paths, and a table with a value set at one
* `Setting.apply` — a table with the values of a layer set
-/

namespace TupleClient

/-- A value without parts. -/
inductive Leaf where
  | null
  | bool (b : Bool)
  | int (n : Int)
  | real (x : Real64)
  | text (s : String)
deriving DecidableEq, Inhabited

/-- A value that has been set. Its source is that of a layer; the tables that result from merging
have none. -/
inductive Setting where
  | leaf (source : Option String) (value : Leaf)
  | list (source : Option String) (items : List Setting)
  | table (source : Option String) (fields : List (String × Setting))
deriving Inhabited

/-- A step of a path. -/
inductive KeyStep where
  | name (s : String)
  /-- A position of a list, counted from its end if it is negative. -/
  | position (i : Int)
deriving DecidableEq

/-- A path: a name and the steps after it. -/
structure KeyPath where
  head : String
  steps : List KeyStep
deriving DecidableEq

namespace KeyPath

/-- Whether a character may stand in a name of a path. -/
def isNameChar (c : Char) : Bool := c.isAlphanum || c = ' ' || c = '_' || c = '-'

/-- A position in brackets, whose opening bracket has been read: perhaps a minus and digits, between
blanks. It has 64 bits with a sign. -/
def position? (cs : List Char) : Option Int :=
  let read (digits : List Char) : Option Int :=
    if !digits.isEmpty && digits.all Char.isDigit then
      (String.ofList digits).toNat?.map fun n => (n : Int)
    else none
  let position := match Text.trimList (fun c => c = ' ' || c = '\t') cs with
    | '-' :: digits => (read digits).map fun n => -n
    | digits => read digits
  position.filter fitsInt64

/-- The steps of a text. -/
def steps? : Nat → List Char → Option (List KeyStep)
  | 0, _ => none
  | _, [] => some []
  | fuel + 1, '.' :: rest =>
    let name := rest.takeWhile isNameChar
    if name.isEmpty then none
    else (steps? fuel (rest.dropWhile isNameChar)).map (.name (String.ofList name) :: ·)
  | fuel + 1, '[' :: rest =>
    let inside := rest.takeWhile (· ≠ ']')
    match position? inside, rest.dropWhile (· ≠ ']') with
    | some i, _ :: rest => (steps? fuel rest).map (.position i :: ·)
    | _, _ => none
  | _, _ => none

/-- The path of a key. -/
def ofKey (key : String) : KeyPath :=
  let cs := key.toList
  let head := cs.takeWhile isNameChar
  match steps? (cs.length + 1) (cs.dropWhile isNameChar) with
  | some steps => if head.isEmpty then ⟨key, []⟩ else ⟨String.ofList head, steps⟩
  | none => ⟨key, []⟩

end KeyPath

namespace Setting

/-- An empty table. -/
def empty : Setting := .table none []

/-- The values in a table, none for any other value. -/
def fields : Setting → List (String × Setting)
  | table _ fields => fields
  | _ => []

/-- The items of a list, none for any other value. -/
def items : Setting → List Setting
  | list _ items => items
  | _ => []

/-- The source of a value. -/
def source : Setting → Option String
  | leaf source _ | list source _ | table source _ => source

/-- The source of a value that is a table. -/
def tableSource : Setting → Option String
  | table source _ => source
  | _ => none

/-- The value under a name of a table. -/
def get? (s : Setting) (name : String) : Option Setting :=
  Fields.find? (Text.lowerCase name) s.fields

/-- A table with a value stored under a name, whatever is there. What is not a table is replaced by
one. -/
def store (target : Setting) (name : String) (value : Setting) : Setting :=
  .table target.tableSource (Fields.store (Text.lowerCase name) value target.fields)

mutual

/-- What is set where `old` has been set: a table is merged into what is there, and anything else
replaces it. -/
def merge (old : Setting) : Setting → Setting
  | table _ fields => mergeFields old fields
  | value => value

/-- A value with the values of a table set in it. -/
def mergeFields (old : Setting) : List (String × Setting) → Setting
  | [] => old
  | (name, value) :: rest =>
    mergeFields (old.store name (merge ((old.get? name).getD empty) value)) rest

end

/-- A table with a value set under a name. -/
def put (target : Setting) (name : String) (value : Setting) : Setting :=
  target.store name (merge ((target.get? name).getD empty) value)

/-- The position of a list of some length that is meant by a number. -/
def position? (length : Nat) (i : Int) : Option Nat :=
  if 0 ≤ i then some i.toNat
  else if -i ≤ length then some (length - (-i).toNat)
  else none

/-- A list with the item at a position changed. It is made longer if need be. -/
def changeItem (target : Setting) (i : Int) (change : Setting → Setting) : Setting :=
  match position? target.items.length i with
  | none => target
  | some k =>
    -- Positions before the one that is set are filled with null.
    let padded := target.items ++ List.replicate (k + 1 - target.items.length) (leaf none .null)
    let source := match target with
      | list source _ => source
      | _ => none
    list source (padded.modify k change)

/-- What results from setting a value after some steps. -/
def setAfter (value : Setting) : Setting → List KeyStep → Setting
  | old, [] => merge old value
  | old, .name name :: rest =>
    old.store name (setAfter value ((old.get? name).getD empty) rest)
  | old, [.position i] => old.changeItem i fun _ => value
  | old, .position i :: rest => old.changeItem i fun item => setAfter value item rest

/-- A table with a value set at a path. -/
def setAt (target : Setting) (path : KeyPath) (value : Setting) : Setting :=
  setAfter value target (.name path.head :: path.steps)

/-- A table with the values of a layer set, one after the other. -/
def apply (target : Setting) (layer : List (String × Setting)) : Setting :=
  layer.foldl (fun s entry => s.setAt (KeyPath.ofKey entry.1) entry.2) target

end Setting

end TupleClient
