import TupleClient.Settings.Basic
import TupleClient.Transaction

/-!
# The client

A client has valid settings and works over a link. Every call is made for the configured store and
model; a call that brings no conflict policy uses the configured one.

## Main definitions

* `Client` — valid settings
* `Client.ofSettings` — the client of settings, or what is wrong with them
* `Client.execute`, `Client.writeTuples`, `Client.deleteTuples` — transactions
* `Client.send` — one request outside every transaction
-/

namespace TupleClient

/-- A client with its settings. -/
structure Client where
  settings : Settings
  valid : settings.Valid

namespace Client

variable {σ : Type}

/-- The client of settings, unless something is wrong with them. -/
def ofSettings (s : Settings) : Except SettingsError Client :=
  match h : s.defect? with
  | some e => .error e
  | none => .ok ⟨s, s.defect?_eq_none_iff.mp h⟩

/-- The greatest number of tuples of a call. -/
def limit (c : Client) : ChunkLimit := ⟨c.settings.write.maxTuplesPerCall, c.valid.limit⟩

/-- What is known of a call of an operation. -/
def callMetadata (c : Client) (operation : String) : CallMetadata where
  operationName := operation
  storeId := some c.settings.connection.storeId
  authorizationModelId := c.settings.connection.authorizationModelId

/-- The name of write transactions. -/
def writeOperation : String := "write"

/-- The name of transactions that only delete. -/
def deleteOperation : String := "delete"

/-- Executes a change set as the named operation. -/
def execute (c : Client) (link : Link σ) (cs : ChangeSet) (policy : Option ConflictPolicy)
    (operation : String) (watch : Watch) (w : World σ) : Outcome × World σ :=
  Transaction.execute link c.limit cs (policy.getD c.settings.defaultPolicy)
    (c.callMetadata operation) watch w

/-- Executes a change set as a write. -/
def write (c : Client) (link : Link σ) (cs : ChangeSet) (policy : Option ConflictPolicy)
    (w : World σ) : Outcome × World σ :=
  c.execute link cs policy writeOperation .nothing w

/-- The outcome of an operation whose tuples are refused. Nothing is sent and nothing logged. -/
def refused (c : Client) (e : InputError) (operation : String) : Outcome :=
  .failed (.ofInput e.message (c.callMetadata operation)) 0

/-- Writes tuples. -/
def writeTuples (c : Client) (link : Link σ) (tuples : List Tuple)
    (policy : Option ConflictPolicy) (w : World σ) : Outcome × World σ :=
  match ChangeSet.ofWrites tuples with
  | .error e => (c.refused e writeOperation, w)
  | .ok cs => c.write link cs policy w

/-- Deletes tuples. -/
def deleteTuples (c : Client) (link : Link σ) (tuples : List Tuple)
    (policy : Option ConflictPolicy) (w : World σ) : Outcome × World σ :=
  match ChangeSet.ofDeletes tuples with
  | .error e => (c.refused e deleteOperation, w)
  | .ok cs => c.execute link cs policy deleteOperation .nothing w

/-- A request made ready to be sent as the named operation: the store and the model that it does
not name are the configured ones. -/
def prepare (c : Client) (operation : String) (r : Request) : Request :=
  let known := c.callMetadata operation
  { r with call :=
    { operationName := operation
      storeId := r.call.storeId.or known.storeId
      authorizationModelId := r.call.authorizationModelId.or known.authorizationModelId } }

/-- Sends one request. `none` stands for a call that is never answered. -/
def send (c : Client) (link : Link σ) (operation : String) (r : Request) (w : World σ) :
    Option (Except Failure Response) × World σ :=
  let r := c.prepare operation r
  let w := w.say .debug .client "sending request"
    (Transaction.operation r.call ++ [("method", .str r.method.name), ("path", .str r.path)])
  match link .nothing r w with
  | (.abandoned, w) => (none, w)
  | (.answered reply, w) => (some (reply.result r.call), w)

end Client

end TupleClient
