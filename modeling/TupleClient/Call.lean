import TupleClient.Headers

/-!
# Calls and their context

Every call carries the name of its operation and the identifiers known where it was made. When it
fails, its context is captured: what the response reports has precedence, what is known at the call
fills the gaps, and only a response can name the request.

## Main definitions

* `CallMetadata` — what is known where a call is made
* `CallContext` — what is known of a failed call
* `CallContext.capture` — the context of a call and the headers of its response, if there is one
-/

namespace TupleClient

/-- What is known of a call where it is made. -/
structure CallMetadata where
  operationName : String := ""
  storeId : Option String := none
  authorizationModelId : Option String := none
deriving DecidableEq, Inhabited

/-- What is known of a call that failed. -/
structure CallContext where
  operationName : Option String := none
  requestId : Option String := none
  storeId : Option String := none
  authorizationModelId : Option String := none
deriving DecidableEq, Inhabited

namespace CallContext

/-- The first value that a response reports under one of the names. -/
def reported (headers : Option Headers) (names : List String) : Option String :=
  headers.bind fun h => h.firstOf? names

/-- The context of a call. A reported value is kept as it is; a value from the call is trimmed, and
a blank one is none. -/
def capture (call : CallMetadata) (headers : Option Headers) : CallContext where
  operationName := Text.nonBlank call.operationName
  requestId := reported headers HeaderNames.requestId
  storeId := reported headers HeaderNames.storeId <|> call.storeId.bind Text.nonBlank
  authorizationModelId :=
    reported headers HeaderNames.authorizationModelId <|>
      call.authorizationModelId.bind Text.nonBlank

end CallContext

end TupleClient
