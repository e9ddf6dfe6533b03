/-!
# Kinds of failure

A failed call is of one of eight kinds, decided by its status alone. Only failures that may pass by
themselves are worth another attempt.

## Main definitions

* `FailureKind` — the kinds
* `FailureKind.ofStatus` — the kind of a status, or of no response at all
* `FailureKind.isRetryable` — whether another attempt may succeed
-/

namespace TupleClient

/-- The kinds of failure. -/
inductive FailureKind where
  /-- The request was rejected as invalid. -/
  | validation
  /-- What the request is about does not exist. -/
  | notFound
  /-- The caller is not known. -/
  | authentication
  /-- The caller lacks permission. -/
  | authorization
  /-- The service throttles the caller. -/
  | rateLimit
  /-- The service failed. -/
  | server
  /-- No response arrived. -/
  | transport
  /-- The caller gave up. -/
  | cancelled
deriving DecidableEq, Inhabited

namespace FailureKind

/-- All kinds, in order. -/
def all : List FailureKind :=
  [validation, notFound, authentication, authorization, rateLimit, server, transport, cancelled]

/-- The kind of a failed call with a status, or without a response. A status that is neither a
success nor a client error is a failure of the service. -/
def ofStatus : Option Nat → FailureKind
  | none => transport
  | some status =>
    if status = 401 then authentication
    else if status = 403 then authorization
    else if status = 404 then notFound
    else if status = 429 then rateLimit
    else if 400 ≤ status ∧ status < 500 then validation
    else server

/-- Whether another attempt may succeed. -/
def isRetryable : FailureKind → Bool
  | rateLimit | server | transport => true
  | _ => false

/-- The short name of a kind. -/
def label : FailureKind → String
  | validation => "validation"
  | notFound => "not_found"
  | authentication => "authentication"
  | authorization => "authorization"
  | rateLimit => "rate_limit"
  | server => "server"
  | transport => "transport"
  | cancelled => "cancelled"

/-- The name of a kind. -/
def name (kind : FailureKind) : String := kind.label ++ "_error"

end FailureKind

end TupleClient
