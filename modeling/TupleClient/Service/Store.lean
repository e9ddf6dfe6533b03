import TupleClient.Table
import TupleClient.Tuple.Basic
import TupleClient.WriteBody

/-!
# Stores

A store holds at most one tuple per key: under each key that is present, the condition of its
tuple. A write request is judged as a whole against the store before it, and either takes effect
completely or not at all.

## Main definitions

* `Store` — the conditions by key
* `Refusal` — why the service refuses a request, with its status, code and message
* `Store.refusal?` — why a store refuses the tuples of a body
* `Store.apply` — the store after a body that it does not refuse
* `Store.passedOver` — the conflicts that are ignored on the way
* `Store.tuples` — the tuples of a store, ordered by object, relation and user
-/

namespace TupleClient

/-- Why the service refuses a request. -/
inductive Refusal where
  | noRoute (method path : String)
  | noBody
  | undecodable (e : DecodeError)
  | noTuples
  | tooManyTuples (total limit : Nat)
  | repeatedKey (key : TupleKey)
  | unknownStore (storeId : String)
  | otherCondition (key : TupleKey)
  | alreadyPresent (key : TupleKey)
  | notPresent (key : TupleKey)
deriving Inhabited

namespace Refusal

/-- The status of a refusal. -/
def status : Refusal → Nat
  | noRoute _ _ | unknownStore _ | notPresent _ => 404
  | noBody | undecodable _ | noTuples | tooManyTuples _ _ | repeatedKey _ => 400
  | otherCondition _ | alreadyPresent _ => 409

/-- The code of a refusal. -/
def code : Refusal → String
  | noRoute _ _ => "undefined_endpoint"
  | noBody | undecodable _ | noTuples => "invalid_write_input"
  | tooManyTuples _ _ => "validation_error"
  | repeatedKey _ => "cannot_allow_duplicate_tuples_in_one_request"
  | unknownStore _ => "store_id_not_found"
  | otherCondition _ | alreadyPresent _ | notPresent _ => "write_failed_due_to_invalid_input"

/-- The message of a refusal. -/
def message : Refusal → String
  | noRoute method path => "no route for " ++ method ++ " " ++ path
  | noBody => "request body is required"
  | undecodable e => e.message
  | noTuples => "invalid WriteRequest: must contain at least one write or delete"
  | tooManyTuples total limit =>
    "the number of tuples per write request (" ++ toString total ++
      ") exceeds the allowed limit of " ++ toString limit
  | repeatedKey key => "duplicate tuple in write request: '" ++ key.render ++ "'"
  | unknownStore storeId => "store '" ++ storeId ++ "' not found"
  | otherCondition key =>
    "cannot write a tuple which already exists with a different condition: '" ++ key.render ++ "'"
  | alreadyPresent key => "cannot write a tuple which already exists: '" ++ key.render ++ "'"
  | notPresent key => "cannot delete a tuple which does not exist: '" ++ key.render ++ "'"

/-- The body of the response to a refused request. -/
def body (r : Refusal) : Json :=
  .obj [("code", .str r.code), ("message", .str r.message)]

end Refusal

/-- The keys of a body, those of the writes first. -/
def WriteBody.keys (b : WriteBody) : List TupleKey :=
  b.writtenTuples.map Tuple.key ++ b.deletedKeys

/-- The first key of a list that occurred before, those of `seen` counting as earlier. -/
def repeatedKey? (seen : List TupleKey) : List TupleKey → Option TupleKey
  | [] => none
  | key :: rest => if key ∈ seen then some key else repeatedKey? (key :: seen) rest

/-- The conditions of tuples by key. -/
abbrev Store := Table TupleKey (Option Condition)

/-- A conflict that is ignored. -/
inductive PassedOver where
  | duplicateWrite (key : TupleKey)
  | missingDelete (key : TupleKey)
deriving DecidableEq

namespace Store

/-- The store without tuples. -/
def empty : Store := Table.empty

/-- The store with a tuple put under its key. -/
def put (s : Store) (t : Tuple) : Store := s.insert t.key t.condition

/-- Why a store refuses the write of a tuple. -/
def writeRefusal? (s : Store) (onDuplicate : Directive) (t : Tuple) : Option Refusal :=
  match s.find? t.key with
  | none => none
  | some condition =>
    if !Condition.sameOption condition t.condition then some (.otherCondition t.key)
    else if onDuplicate = .error then some (.alreadyPresent t.key)
    else none

/-- Why a store refuses the delete of a key. -/
def deleteRefusal? (s : Store) (onMissing : Directive) (key : TupleKey) : Option Refusal :=
  if !s.contains key && onMissing == .error then some (.notPresent key) else none

/-- Why a store refuses the tuples of a body: the first write refused, or else the first delete. -/
def refusal? (s : Store) (b : WriteBody) : Option Refusal :=
  match b.writtenTuples.findSome? (s.writeRefusal? b.onDuplicate) with
  | some r => some r
  | none => b.deletedKeys.findSome? (s.deleteRefusal? b.onMissing)

/-- The conflicts that are ignored before the first tuple that is refused. -/
def passedOver (s : Store) (b : WriteBody) : List PassedOver :=
  let writes := b.writtenTuples.takeWhile fun t => (s.writeRefusal? b.onDuplicate t).isNone
  let ignored := (writes.filter fun t => s.contains t.key).map fun t =>
    PassedOver.duplicateWrite t.key
  -- A refused write ends the judgement before any delete is looked at.
  if writes.length < b.writtenTuples.length then ignored
  else
    let deletes := b.deletedKeys.takeWhile fun key => (s.deleteRefusal? b.onMissing key).isNone
    ignored ++ (deletes.filter fun key => !s.contains key).map PassedOver.missingDelete

/-- The store after a body: the deleted keys are gone, and the tuples whose keys were absent before
are there. -/
def apply (s : Store) (b : WriteBody) : Store :=
  -- The keys of a body that is not refused are all different, so deletes and writes do not meet.
  let fresh := b.writtenTuples.filter fun t => !s.contains t.key
  fresh.foldl put (b.deletedKeys.foldl Table.erase s)

/-- Whether a tuple comes before another one by object, relation and user. -/
def precedes (a b : Tuple) : Bool :=
  a.object < b.object ||
    (a.object == b.object &&
      (a.relation < b.relation || (a.relation == b.relation && a.user ≤ b.user)))

/-- The tuples of a store in order. -/
def tuples (s : Store) : List Tuple :=
  (s.entries.map fun (key, condition) => { toTupleKey := key, condition := condition }).mergeSort
    precedes

end Store

end TupleClient
