import TupleClient.Cancellation
import TupleClient.Connection
import TupleClient.Http.Exchange
import TupleClient.Json.Printer
import TupleClient.Log.Setup
import TupleClient.Proofs.Batching
import TupleClient.Proofs.ByteOrder
import TupleClient.Proofs.Cancelled
import TupleClient.Proofs.Context
import TupleClient.Proofs.Convergence
import TupleClient.Proofs.FailureStore
import TupleClient.Proofs.FirstDefect
import TupleClient.Proofs.HeaderHistory
import TupleClient.Proofs.Interleaving
import TupleClient.Proofs.KeyedStore
import TupleClient.Proofs.Partition
import TupleClient.Proofs.Pauses
import TupleClient.Proofs.Payload
import TupleClient.Proofs.Relaxation
import TupleClient.Proofs.Repetition
import TupleClient.Proofs.RequestUrl
import TupleClient.Proofs.RetryLoop
import TupleClient.Proofs.Routing
import TupleClient.Proofs.SettingsFormat
import TupleClient.Proofs.SharedService
import TupleClient.Proofs.TupleHistory
import TupleClient.Proofs.WakeUps
import TupleClient.Proofs.WordPositions
import TupleClient.Settings.Load
