import TupleClient.Call
import TupleClient.Failure.Kind
import TupleClient.Json.Basic
import TupleClient.WriteBody

/-!
# Requests and replies

A request names a path below the base address of the service and carries what is known of the call
it belongs to. A reply is a response with any status, or the reason why there is none.

## Main definitions

* `Request`, `Response`, `TransportError`, `Reply` — the two sides of an exchange
* `Reply.failureKind?` — the kind of failure that a reply stands for, if it does
* `Request.isReplaySafe` — whether a request may be sent again although it may have been applied
-/

namespace TupleClient

/-- The method of a request. -/
inductive Method where
  | get
  | post
  | put
  | delete
deriving DecidableEq, Inhabited

/-- The name of a method. -/
def Method.name : Method → String
  | get => "GET"
  | post => "POST"
  | put => "PUT"
  | delete => "DELETE"

/-- One call of the service. -/
structure Request where
  method : Method
  path : String
  body : Option Json := none
  headers : List (String × String) := []
  call : CallMetadata := {}
deriving Inhabited

namespace Request

/-- Equality of optional bodies as data. -/
def sameBody : Option Json → Option Json → Bool
  | none, none => true
  | some a, some b => Json.same a b
  | _, _ => false

/-- Requests are the same if all their parts are, bodies being compared as data. -/
def same (a b : Request) : Bool :=
  a.method == b.method && a.path == b.path && sameBody a.body b.body &&
    a.headers == b.headers && a.call == b.call

/-- The write body of a request, if it has a body that is one. -/
def writeBody? (r : Request) : Option WriteBody :=
  r.body.bind fun body =>
    match WriteBody.decode body with
    | .ok b => some b
    | .error _ => none

/-- Whether sending a request again after it was applied cannot meet a conflict that is rejected. A
body that is not a write body carries no directive. -/
def isReplaySafe (r : Request) : Bool :=
  match r.writeBody? with
  | some b => b.isReplaySafe
  | none => true

end Request

/-- The answer of the service. -/
structure Response where
  status : Nat
  body : Json := .null
  headers : Headers := .empty
deriving Inhabited

/-- Whether a response reports success. -/
def Response.isSuccess (r : Response) : Bool := 200 ≤ r.status && r.status < 300

/-- Why there is no response. -/
inductive TransportFault where
  /-- The connection could not be made or was lost. -/
  | connection
  /-- The response did not come in time. -/
  | timeout
  /-- The request cannot be sent as it is. -/
  | invalidRequest
  /-- The response could not be read. -/
  | responseRead
  /-- Anything else that went wrong on this side. -/
  | internal
deriving DecidableEq, Inhabited

/-- Why there is no response, with the particulars. -/
structure TransportError where
  fault : TransportFault
  detail : String
deriving DecidableEq, Inhabited

/-- The text of a transport error. -/
def TransportError.message (e : TransportError) : String :=
  (match e.fault with
    | .connection => "connection error: "
    | .timeout => "request timed out: "
    | .invalidRequest => "invalid request: "
    | .responseRead => "failed to read response: "
    | .internal => "internal transport error: ") ++ e.detail

/-- What comes of a request. -/
inductive Reply where
  | response (r : Response)
  | failure (e : TransportError)
deriving Inhabited

namespace Reply

/-- Whether a reply is a response that reports success. -/
def isSuccess : Reply → Bool
  | response r => r.isSuccess
  | failure _ => false

/-- The kind of failure that a reply stands for, unless it is a success. -/
def failureKind? : Reply → Option FailureKind
  | response r => if r.isSuccess then none else some (.ofStatus (some r.status))
  | failure _ => some (.ofStatus none)

end Reply

end TupleClient
