import TupleClient.Http.Endpoint
import TupleClient.Json.Parser
import TupleClient.Text.Utf8

/-!
# Exchanges over the network

A request becomes a message: a method, a target, headers and perhaps a body. Headers are not
replaced, only added, and some are added only where they are not given. What comes back is a status,
headers and bytes, unless the exchange ends before that.

## Main definitions

* `Message` and `Endpoint.message?` — what is sent for a request
* `Arrival` — what comes back, and how it ends
* `Arrival.read` — the response that it amounts to
* `Endpoint.exchange` — a request, the message that arrives, and the response
-/

namespace TupleClient

/-- A message as the far side receives it. -/
structure Message where
  method : Method
  target : String
  /-- The headers in ascending order of name, apart from those that only serve the exchange. -/
  headers : List (String × String)
  body : Option Json

namespace HeaderRules

/-- Whether a character may stand in the name of a header. -/
def isNameChar (c : Char) : Bool :=
  c.isAlphanum || "!#$%&'*+-.^_`|~".toList.contains c

/-- Whether a text may be the name of a header. -/
def isName (s : String) : Bool := !s.isEmpty && s.toList.all isNameChar

/-- Whether a text may be the value of a header that is sent: it has no control but the tab. -/
def isValue (s : String) : Bool :=
  s.toList.all fun c => c = '\t' || (0x20 ≤ c.toNat && c.toNat ≠ 0x7F)

/-- Whether the value of a header that comes back can be read: it is plain ASCII. -/
def isReadable (s : String) : Bool :=
  s.toList.all fun c => c = '\t' || (0x20 ≤ c.toNat && c.toNat ≤ 0x7E)

/-- A value without the spaces and tabs at its ends. -/
def trimValue (s : String) : String :=
  String.ofList (Text.trimList (fun c => c = ' ' || c = '\t') s.toList)

/-- Headers with one more, unless its name is there already. -/
def addMissing (name value : String) (headers : List (String × String)) :
    List (String × String) :=
  if headers.any (·.1 == name) then headers else headers ++ [(name, value)]

/-- The names of the headers that only serve the exchange. -/
def ofExchange : List String := ["host", "content-length"]

end HeaderRules

namespace Endpoint

open HeaderRules

/-- How the client presents itself. -/
def userAgent : String := "rsfga-client/0.1.0"

/-- The headers of a request, those of the endpoint first. -/
def headersOf (e : Endpoint) (r : Request) : List (String × String) :=
  let given := (e.headers ++ r.headers).map fun h => (Text.lower h.1, trimValue h.2)
  -- Whatever the client adds of its own is added only where nobody has given it.
  let described :=
    if r.body.isSome then addMissing "content-type" "application/json" given else given
  let all := addMissing "user-agent" userAgent (addMissing "accept" "*/*" described)
  (all.filter fun h => !ofExchange.contains h.1).mergeSort fun a b => decide (a.1 ≤ b.1)

/-- What is sent for a request, unless a header or the address is not one. -/
def message? (e : Endpoint) (r : Request) : Option Message :=
  if (e.headers ++ r.headers).all fun h => isName h.1 && isValue h.2 then
    match Url.parse (e.urlOf r.path) with
    | .ok address => some ⟨r.method, address.target, e.headersOf r, r.body⟩
    | .error _ => none
  else none

end Endpoint

/-- How what comes back ends. -/
inductive Ending where
  /-- All of it arrives. -/
  | complete
  /-- The connection is lost before the end of the body. -/
  | cut
  /-- The connection is closed before anything comes back. -/
  | closed
  /-- Nothing comes back in time. -/
  | silent
  /-- There is nobody to connect to. -/
  | refused
deriving DecidableEq

/-- What comes back from the far side. -/
structure Arrival where
  status : Nat := 200
  headers : List (String × String) := []
  body : List Nat := []
  ending : Ending := .complete

namespace Arrival

/-- Whether responses of a status have no body. -/
def lacksBody (status : Nat) : Bool := status = 204 || status = 304

/-- The greatest depth to which the values of a body may be nested. -/
def nestingLimit : Nat := 127

/-- Whether a byte is a blank. -/
def isBlankByte (b : Nat) : Bool := [0x20, 0x09, 0x0A, 0x0C, 0x0D].contains b

/-- The data of a body. A blank body stands for null, and one that is not data for its own text. -/
def readBody (bytes : List Nat) : Json :=
  if bytes.all isBlankByte then .null
  else
    match (Utf8.decode? bytes).bind (Json.parse? nestingLimit) with
    | some v => v
    | none => .str (Utf8.decodeLossy bytes)

/-- The headers that come back, as far as they can be read, with the length of the body. -/
def readHeaders (a : Arrival) : Headers :=
  let given := a.headers.map fun h => (h.1, HeaderRules.trimValue h.2)
  let read := Headers.ofList (given.filter fun h => HeaderRules.isReadable h.2)
  if lacksBody a.status then read else read.set "content-length" (toString a.body.length)

/-- The response that an arrival amounts to, or what went wrong. -/
def read (a : Arrival) : Except TransportFault Response :=
  let response (body : Json) : Response := ⟨a.status, body, a.readHeaders⟩
  match a.ending with
  | .silent => .error .timeout
  | .closed | .refused => .error .connection
  | .cut => if lacksBody a.status then .ok (response .null) else .error .responseRead
  | .complete => .ok (response (if lacksBody a.status then .null else readBody a.body))

end Arrival

/-- What comes of a request and what the far side sees of it. Nothing is sent if the request cannot
be made, and nobody sees what is sent if there is nobody to connect to. -/
def Endpoint.exchange (e : Endpoint) (r : Request) (arrival : Arrival) :
    Except TransportFault Response × Option Message :=
  match e.message? r with
  | none => (.error .invalidRequest, none)
  | some m => (arrival.read, if arrival.ending = .refused then none else some m)

end TupleClient
