import TupleClient.Call
import TupleClient.Failure.Kind
import TupleClient.Json.Basic

/-!
# Classified failures

A failed call becomes one value that says of what kind it is, what the service said about it, and
which call it was.

## Main definitions

* `Failure` — the value
* `Failure.ofResponse` — the failure that a response reports
* `Failure.ofTransport`, `Failure.ofInput`, `Failure.cancellation` — failures without a response
* `Failure.render` — the failure as lines of text
-/

namespace TupleClient

/-- A failed call. -/
structure Failure where
  kind : FailureKind
  status : Option Nat := none
  code : Option String := none
  message : Option String := none
  context : CallContext
deriving DecidableEq, Inhabited

namespace Failure

/-- The code of inputs that are refused before anything is sent. -/
def invalidInputCode : String := "invalid_change_set"

/-- A call without a response. -/
def ofTransport (message : String) (call : CallMetadata) : Failure where
  kind := .transport
  message := some message
  context := .capture call none

/-- An input that is refused before anything is sent. -/
def ofInput (message : String) (call : CallMetadata) : Failure where
  kind := .validation
  code := some invalidInputCode
  message := some message
  context := .capture call none

/-- A call that the caller gave up. -/
def cancellation (call : CallMetadata) : Failure where
  kind := .cancelled
  message := some "operation cancelled by caller"
  context := .capture call none

/-- A text that is not empty. -/
def someText? (value : Option Json) : Option String :=
  (value.bind Json.text?).filter fun s => !s.isEmpty

/-- The code and the message that a body reports. A body that is a text is the message. -/
def reported (body : Json) : Option String × Option String :=
  match body with
  | .obj fields =>
    (someText? (Fields.find? "code" fields), someText? (Fields.find? "message" fields))
  | .str s => (none, someText? (some (.str s)))
  | _ => (none, none)

/-- The failure that a status, a body and the headers of a response report. -/
def ofResponse (status : Option Nat) (body : Json) (headers : Option Headers)
    (call : CallMetadata) : Failure where
  kind := .ofStatus status
  status := status
  code := (reported body).1
  message := (reported body).2
  context := .capture call headers

/-- Whether another attempt may succeed. -/
def isRetryable (f : Failure) : Bool := f.kind.isRetryable

/-- A line that is left out when it has nothing to say. -/
def line (title : String) (value : Option String) : List String :=
  match value with
  | some v => [title ++ ": " ++ v]
  | none => []

/-- The failure as lines of text. -/
def render (f : Failure) : String :=
  "\n".intercalate (line "Operation" f.context.operationName ++
    line "Status" (f.status.map toString) ++
    line "Error Code" f.code ++
    line "Message" f.message ++
    line "Request ID" f.context.requestId ++
    line "Store ID" f.context.storeId ++
    line "Authorization Model ID" f.context.authorizationModelId)

end Failure

end TupleClient
