/-!
# Cancellation tokens

A token is a flag that is raised once and for all. Whoever waits for it first registers, then looks
at the flag, and goes to sleep only if it is not raised; whoever cancels first raises the flag and
then wakes everyone who is registered. In this order no wake-up is lost.

## Main definitions

* `Token` — the flag and those who wait for it
* `Token.cancel` — raising the flag and waking
* `Token.wait` — a new waiter, and `Token.poll`, a waiter's next look
* `Tokens` — several tokens, each of which may have several handles
-/

namespace TupleClient

/-- How far a waiter has come. -/
inductive Waiter where
  /-- It has not looked yet. -/
  | idle
  /-- It is registered and has still to look at the flag. -/
  | registered (woken : Bool)
  /-- It sleeps, or has been woken. -/
  | parked (woken : Bool)
  /-- It knows of the cancellation. -/
  | finished
deriving DecidableEq, Inhabited

namespace Waiter

/-- A waiter that registers. -/
def register : Waiter → Waiter
  | idle => registered false
  | w => w

/-- A registered waiter that looks at the flag. -/
def look (raised : Bool) : Waiter → Waiter
  | registered woken => if raised then finished else parked woken
  | w => w

/-- A waiter when everyone who is registered is woken. -/
def wake : Waiter → Waiter
  | registered _ => registered true
  | parked _ => parked true
  | w => w

/-- A parked waiter that goes on if it has been woken. -/
def resume : Waiter → Waiter
  | parked true => finished
  | w => w

/-- Whether a waiter knows of the cancellation. -/
def isFinished : Waiter → Bool
  | finished => true
  | _ => false

end Waiter

/-- A flag and the waiters for it. -/
structure Token where
  raised : Bool := false
  waiters : List Waiter := []
deriving DecidableEq, Inhabited

namespace Token

/-- The token with its flag raised. -/
def raise (t : Token) : Token := { t with raised := true }

/-- The token with every registered waiter woken. -/
def wakeAll (t : Token) : Token := { t with waiters := t.waiters.map Waiter.wake }

/-- Cancels: raises the flag, then wakes. -/
def cancel (t : Token) : Token := t.raise.wakeAll

/-- The token with one more waiter. -/
def wait (t : Token) : Token := { t with waiters := t.waiters ++ [.idle] }

/-- A waiter's next look: it registers if it has not yet, looks at the flag, and goes on if it has
been woken. -/
def poll (t : Token) (i : Nat) : Token :=
  { t with waiters := t.waiters.modify i fun w => ((w.register).look t.raised).resume }

/-- Whether a waiter knows of the cancellation. -/
def hasFinished (t : Token) (i : Nat) : Bool :=
  match t.waiters[i]? with
  | some w => w.isFinished
  | none => false

end Token

/-- Tokens and handles on them. Copies of a handle stand for the same token. -/
structure Tokens where
  tokens : List Token := []
  /-- The token of each handle. -/
  handles : List Nat := []
  /-- The token of each waiter, and its position there. -/
  waiters : List (Nat × Nat) := []
deriving Inhabited

namespace Tokens

/-- One token with one handle. -/
def single : Tokens := ⟨[{}], [0], []⟩

/-- The token of a handle. -/
def tokenOf? (s : Tokens) (handle : Nat) : Option Nat := s.handles[handle]?

/-- A new token with a handle of its own, which is the last one. -/
def create (s : Tokens) : Tokens :=
  { s with tokens := s.tokens ++ [{}], handles := s.handles ++ [s.tokens.length] }

/-- One more handle, which is the last one, on the token of a handle. -/
def copy (s : Tokens) (handle : Nat) : Tokens :=
  match s.tokenOf? handle with
  | some i => { s with handles := s.handles ++ [i] }
  | none => s

/-- The tokens after the token of a handle is cancelled. -/
def cancel (s : Tokens) (handle : Nat) : Tokens :=
  match s.tokenOf? handle with
  | some i => { s with tokens := s.tokens.modify i Token.cancel }
  | none => s

/-- Whether the token of a handle is cancelled. -/
def isCancelled (s : Tokens) (handle : Nat) : Bool :=
  match (s.tokenOf? handle).bind fun i => s.tokens[i]? with
  | some t => t.raised
  | none => false

/-- A new waiter, which is the last one, on the token of a handle. -/
def wait (s : Tokens) (handle : Nat) : Tokens :=
  match s.tokenOf? handle with
  | none => s
  | some i =>
    let position := match s.tokens[i]? with
      | some t => t.waiters.length
      | none => 0
    { s with tokens := s.tokens.modify i Token.wait, waiters := s.waiters ++ [(i, position)] }

/-- The tokens after a waiter's next look. -/
def poll (s : Tokens) (waiter : Nat) : Tokens :=
  match s.waiters[waiter]? with
  | some (i, position) => { s with tokens := s.tokens.modify i fun t => t.poll position }
  | none => s

/-- Whether a waiter knows of the cancellation. -/
def hasFinished (s : Tokens) (waiter : Nat) : Bool :=
  match s.waiters[waiter]? with
  | some (i, position) =>
    match s.tokens[i]? with
    | some t => t.hasFinished position
    | none => false
  | none => false

end Tokens

end TupleClient
