import TupleClient.Exchange
import TupleClient.Log.Event

/-!
# Links to the service

A link carries requests to something that answers them. What answers has a state of its own; beside
it stand the caller's token, which may be cancelled while a call is under way, and the log.

A call can be given up only where it waits. A caller who watches the token gives a waiting call up
as soon as the token is cancelled; a reply that is there at once is always used.

## Main definitions

* `World` — the state of the far side, the caller's token and the log
* `Watch` — whether the caller watches the token
* `Flight` — how a call ends: answered or abandoned
* `Link` — what carries requests
-/

namespace TupleClient

/-- The state in which calls are made. -/
structure World (σ : Type) where
  /-- The state of the far side. -/
  far : σ
  /-- Whether the caller's token is cancelled. -/
  cancelled : Bool := false
  /-- The log, last entry first. -/
  log : List Trace := []

namespace World

variable {σ : Type}

/-- The world with an entry added to the log. -/
def note (w : World σ) (entry : Trace) : World σ := { w with log := entry :: w.log }

/-- The world with an event outside every span added to the log. -/
def say (w : World σ) (level : Level) (component : Component) (message : String)
    (values : List (String × Json)) : World σ :=
  w.note (.event ⟨level, component, message, values, none⟩)

/-- The log from its beginning. -/
def entries (w : World σ) : List Trace := w.log.reverse

@[simp] theorem far_say (w : World σ) (level : Level) (component : Component) (message : String)
    (values : List (String × Json)) : (w.say level component message values).far = w.far := rfl

@[simp] theorem cancelled_say (w : World σ) (level : Level) (component : Component)
    (message : String) (values : List (String × Json)) :
    (w.say level component message values).cancelled = w.cancelled := rfl

end World

/-- Whether the caller of a run watches the token. -/
inductive Watch where
  | token
  | nothing
deriving DecidableEq

/-- Whether a caller who watches in this way sees a cancellation. -/
def World.isStopped {σ : Type} (w : World σ) : Watch → Bool
  | .token => w.cancelled
  | .nothing => false

/-- How a call ends for its caller. -/
inductive Flight where
  | answered (reply : Reply)
  | abandoned
deriving Inhabited

/-- What carries requests to the far side. -/
abbrev Link (σ : Type) := Watch → Request → World σ → Flight × World σ

end TupleClient
