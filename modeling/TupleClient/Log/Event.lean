import TupleClient.Json.Basic

/-!
# Log events

What the client and the service note while they work. An event has a level, the component that
notes it, a message and named values. While the service works on a request it is inside a span, and
events noted there carry it.

## Main definitions

* `Level`, `Component`, `Span`, `Event` — the parts of an event
* `Trace` — an event, or the entering or leaving of a span
-/

namespace TupleClient

/-- How severe an event is, from the most talkative level up. -/
inductive Level where
  | trace
  | debug
  | info
  | warn
  | error
deriving DecidableEq, Inhabited

namespace Level

/-- All levels, the most talkative first. -/
def all : List Level := [trace, debug, info, warn, error]

/-- The name of a level in capitals. -/
def name : Level → String
  | trace => "TRACE"
  | debug => "DEBUG"
  | info => "INFO"
  | warn => "WARN"
  | error => "ERROR"

/-- The severity of a level: the most talkative one has the least. -/
def severity : Level → Nat
  | trace => 0
  | debug => 1
  | info => 2
  | warn => 3
  | error => 4

/-- Whether events of a level are shown when `least` is the least level shown. -/
def shownAt (level least : Level) : Bool := least.severity ≤ level.severity

end Level

/-- The component that notes an event. -/
inductive Component where
  | transaction
  | client
  | service
  | retry
deriving DecidableEq

/-- The name under which a component writes to the log. -/
def Component.target : Component → String
  | transaction => "rsfga_client::executor"
  | client => "rsfga_client::client"
  | service => "rsfga_client_transport::memory"
  | retry => "rsfga_client_transport::retry"

/-- The span of one request at the service, which has level `info`. -/
structure Span where
  operation : String
  path : String
deriving DecidableEq

/-- Something noted. -/
structure Event where
  level : Level
  component : Component
  message : String
  values : List (String × Json)
  span : Option Span := none

/-- An entry of the log. -/
inductive Trace where
  | event (e : Event)
  | entered (span : Span)
  | left (span : Span)

end TupleClient
