import TupleClient.Link
import TupleClient.Service.Store

/-!
# The service in memory

The service keeps stores and answers write requests to them. A request is judged in this order: its
route, its body, the number of its tuples, repeated keys, the store, and the store's own judgement.
A response to a decoded body says which request it was and which store and model it was about.

## Main definitions

* `Service` — the stores, the limit per request and the number of requests received
* `Service.route?` — the store that a request is addressed to
* `Service.judge` — why the service refuses a decoded body, or its effect
* `Service.handle` — the response to a request and the service after it
* `Service.link` — the link to a service, which answers at once
-/

namespace TupleClient

/-- An identifier in the usual shape of random ones, made of a number. -/
def numberedId (number : Nat) : String :=
  let digits := Nat.toDigits 16 number
  "00000000-0000-4000-8000-" ++ String.ofList (List.replicate (12 - digits.length) '0' ++ digits)

/-- Stores, and what the service knows beside them. -/
structure Service where
  stores : Table String Store := {}
  /-- The greatest number of tuples of a request. -/
  limit : Nat := 100
  /-- The number of requests received. -/
  calls : Nat := 0
  /-- The identifier of the request with a number. It is up to chance. -/
  requestId : Nat → String := numberedId
deriving Inhabited

namespace Service

/-- The service with a store, which is empty unless it was there. -/
def createStore (s : Service) (storeId : String) : Service :=
  match s.stores.find? storeId with
  | some _ => s
  | none => { s with stores := s.stores.insert storeId Store.empty }

/-- The service with a tuple put into a store, which is created if need be. -/
def seed (s : Service) (storeId : String) (t : Tuple) : Service :=
  let store := (s.stores.find? storeId).getD Store.empty
  { s with stores := s.stores.insert storeId (store.put t) }

/-- Whether a store holds a key. -/
def contains (s : Service) (storeId : String) (key : TupleKey) : Bool :=
  match s.stores.find? storeId with
  | some store => store.contains key
  | none => false

/-- The tuples of a store in order, none if there is no such store. -/
def tuples (s : Service) (storeId : String) : List Tuple :=
  match s.stores.find? storeId with
  | some store => store.tuples
  | none => []

/-- A list without a given beginning. -/
def dropStart? {α : Type} [DecidableEq α] : List α → List α → Option (List α)
  | [], rest => some rest
  | _ :: _, [] => none
  | a :: start, b :: rest => if a = b then dropStart? start rest else none

/-- A list without a given end. -/
def dropEnd? {α : Type} [DecidableEq α] (ending rest : List α) : Option (List α) :=
  (dropStart? ending.reverse rest.reverse).map List.reverse

/-- The identifier between the fixed parts of a write path, if it is not empty and has no slash. -/
def writeStoreId? (path : String) : Option String :=
  match (dropStart? "/stores/".toList path.toList).bind (dropEnd? "/write".toList) with
  | some id => if id.isEmpty || id.contains '/' then none else some (String.ofList id)
  | none => none

/-- The store that a request is addressed to. -/
def route? (r : Request) : Option String :=
  if r.method = .post then writeStoreId? r.path else none

/-- The body of a request that has one that can be read. -/
def readBody (r : Request) : Except Refusal WriteBody :=
  match r.body with
  | none => .error .noBody
  | some body =>
    match WriteBody.decode body with
    | .ok b => .ok b
    | .error e => .error (.undecodable e)

/-- Why a body is refused without a look at the store. -/
def bodyRefusal? (limit : Nat) (b : WriteBody) : Option Refusal :=
  if b.tupleCount = 0 then some .noTuples
  else if limit < b.tupleCount then some (.tooManyTuples b.tupleCount limit)
  else (repeatedKey? [] b.keys).map .repeatedKey

/-- What becomes of a body: the refusal or the stores after it, and the conflicts ignored. -/
def judge (s : Service) (storeId : String) (b : WriteBody) :
    Except Refusal (Table String Store) × List PassedOver :=
  match bodyRefusal? s.limit b with
  | some r => (.error r, [])
  | none =>
    match s.stores.find? storeId with
    | none => (.error (.unknownStore storeId), [])
    | some store =>
      -- Conflicts that were ignored before a refusal are reported with it.
      match store.refusal? b with
      | some r => (.error r, store.passedOver b)
      | none => (.ok (s.stores.insert storeId (store.apply b)), store.passedOver b)

/-- The headers of the response to a decoded body. -/
def responseHeaders (s : Service) (storeId : String) (b : WriteBody) : Headers :=
  let h := (Headers.empty.set "fga-request-id" (s.requestId s.calls)).set "store_id" storeId
  match b.authorizationModelId with
  | some id => h.set "openfga_authorization_model_id" id
  | none => h

/-- The response to a refused request. -/
def refuse (r : Refusal) (headers : Headers) : Response := ⟨r.status, r.body, headers⟩

/-- The response to a request, the service after it, and the conflicts ignored. -/
def handle (before : Service) (r : Request) : Response × Service × List PassedOver :=
  -- A request counts even if it is refused.
  let s := { before with calls := before.calls + 1 }
  match route? r with
  | none => (refuse (.noRoute r.method.name r.path) .empty, s, [])
  | some storeId =>
    match readBody r with
    | .error e => (refuse e .empty, s, [])
    | .ok b =>
      match s.judge storeId b with
      | (.error e, passed) => (refuse e (s.responseHeaders storeId b), s, passed)
      | (.ok stores, passed) =>
        (⟨200, .obj [], s.responseHeaders storeId b⟩, { s with stores := stores }, passed)

/-- The event that notes an ignored conflict. -/
def passedOverEvent (span : Span) : PassedOver → Trace
  | .duplicateWrite key =>
    .event ⟨.debug, .service, "ignoring duplicate write", [("tuple", .str key.render)], some span⟩
  | .missingDelete key =>
    .event ⟨.debug, .service, "ignoring missing delete", [("tuple", .str key.render)], some span⟩

/-- The log of one request: the span is entered for the work and once more to be closed. -/
def trace (r : Request) (passed : List PassedOver) : List Trace :=
  let span : Span := ⟨r.call.operationName, r.path⟩
  [.entered span] ++ passed.map (passedOverEvent span) ++
    [.left span, .entered span, .left span]

/-- The link to a service. It answers at once and never touches the token. -/
def link : Link Service := fun _ r w =>
  let (response, after, passed) := w.far.handle r
  (.answered (.response response),
    { w with far := after, log := (trace r passed).reverse ++ w.log })

end Service

end TupleClient
