import Notary.Account.Seed
import Notary.Boundary.Record
import Notary.Config.Document
import Notary.Docket
import Notary.Ledger.Gateway
import Notary.Text.Quoted

namespace Notary

/-!
Sessions: a docket over one ledger, with the records that callers own. Everything is named by
handles, and an operation on a handle that does not name an object of the right kind does nothing.
-/

structure Session (σ : Type) where
  endpoint : String
  docket : Docket σ
  records : RecordLedger

namespace Session

variable {σ : Type}

/-- The endpoint of a ledger that is not remote. -/
def inProcess : String := "in-process"

def checkConfig (config : Config) : Except Fault Unit :=
  match config.validate with
  | .ok () => .ok ()
  | .error problems => .error (.failure (Config.LoadError.invalid problems).toError)

/-- The chain that is set, or else the one that the ledger names. -/
def findChain (ledger : Ledger σ) (config : Config) (state : σ) : Except Fault Nat × σ :=
  match config.rpc.chainId with
  | some chainId => (.ok chainId, state)
  | none =>
      match ledger.ask .chainId state with
      | (.ok (chainId : Nat), state) => (.ok chainId, state)
      | (.error (.failure e), state) =>
          (.error (.failure (.connection ("Failed to query chain ID: " ++ e.message))), state)
      | (.error fault, state) => (.error fault, state)

def checkMetricsAddress (config : Config) : Except Error Unit :=
  match config.observability.metricsAddress with
  | none => .ok ()
  | some address =>
      if SocketAddress.isValid address then .ok ()
      else
        .error (.config ("Invalid metrics address '" ++ address
          ++ "': invalid socket address syntax"))

def assemble (ledger : Ledger σ) (endpoint : String) (config : Config) (state : σ) :
    Except Fault (Session σ) × σ :=
  match findChain ledger config state with
  | (.error fault, state) => (.error fault, state)
  | (.ok chainId, state) =>
      match checkMetricsAddress config, Tracker.ofConfig chainId config with
      | .error e, _ => (.error (.failure e), state)
      | .ok (), .error e => (.error (.failure e), state)
      | .ok (), .ok tracker =>
          (.ok ⟨endpoint, .opened tracker .empty state, .empty⟩, state)

/-- A session over a ledger that is in place; also the ledger as it was left. -/
def onLedger (ledger : Ledger σ) (config : Config) (state : σ) : Except Fault (Session σ) × σ :=
  match checkConfig config with
  | .error fault => (.error fault, state)
  | .ok () => assemble ledger inProcess config state

def connect (gateway : Gateway σ) (endpoint : String) (config : Config) :
    Except Fault (Session σ) := do
  checkConfig config
  let state ← gateway.dial endpoint config.rpc
  (assemble gateway.ledger endpoint config state).1

def ofError {α : Type} : Except Error α → Except Fault α
  | .ok value => .ok value
  | .error e => .error (.failure e)

def registry (session : Session σ) : Registry :=
  session.docket.registry

def withRegistry (session : Session σ) (registry : Registry) : Session σ :=
  { session with docket := { session.docket with registry } }

def register (session : Session σ) (object : Object) : Except Fault Handle × Session σ :=
  let (result, registry) := session.registry.register object
  (ofError result, session.withRegistry registry)

def initializeSigner (session : Session σ) (seed : String) : Except Fault Handle × Session σ :=
  match Seed.derive seed with
  | .error e => (.error (.failure e), session)
  | .ok signer => session.register (.signer signer)

def signMessage (session : Session σ) (handle : Handle) (message : Bytes) : Except Fault Bytes :=
  ofError do
    let signer ← session.registry.signer handle
    signer.signMessage message

def submitWithOptions (ledger : Ledger σ) (session : Session σ) (handle : Handle) (payload : Bytes)
    (options : SubmitOptions) : Except Fault Handle × Session σ :=
  match session.registry.signer handle with
  | .error e => (.error (.failure e), session)
  | .ok signer =>
      let (result, _, docket) := session.docket.submit ledger signer payload options
      let session := { session with docket }
      match result with
      | .error fault => (.error fault, session)
      | .ok number => session.register (.submission number)

/-- Submits a payload under the number of an application, which must not be negative. -/
def submitData (ledger : Ledger σ) (session : Session σ) (handle : Handle) (payload : Bytes)
    (appId : Int) : Except Fault Handle × Session σ :=
  if appId < 0 then
    (.error (.failure (.invalidArgument ("application id " ++ toString appId ++ " is negative"))),
      session)
  else session.submitWithOptions ledger handle payload { appId := appId.toNat }

def findCase (session : Session σ) (handle : Handle) : Except Fault Submission.Case := do
  let number ← ofError (session.registry.submission handle)
  session.docket.find number

/-- The receipt of a submission: waits for it if there is none yet. The submission is cancelled
beside the wait where `cancelAt` is an instant. -/
def transactionReceipt (ledger : Ledger σ) (session : Session σ) (handle : Handle)
    (cancelAt : Option Nat) : Except Fault Handle × Session σ :=
  match session.registry.submission handle with
  | .error e => (.error (.failure e), session)
  | .ok number =>
      let (result, _, docket) := session.docket.resolve ledger number cancelAt
      (result, { session with docket })

def cancelSubmission (session : Session σ) (handle : Handle) : Except Fault Unit × Session σ :=
  match session.registry.submission handle with
  | .error e => (.error (.failure e), session)
  | .ok number => (.ok (), { session with docket := session.docket.cancel number })

def receipt (session : Session σ) (handle : Handle) : Except Fault FinalityRecord :=
  ofError (session.registry.receipt handle)

/-- Allocates a record of a receipt: its address. -/
def receiptNew (session : Session σ) (handle : Handle) : Except Fault Nat × Session σ :=
  match session.registry.receipt handle with
  | .error e => (.error (.failure e), session)
  | .ok record =>
      let (result, records) := session.records.materialize handle record
      (ofError result, { session with records })

def receiptFree (session : Session σ) (address : Nat) : Except Fault Unit × Session σ :=
  let (result, records) := session.records.release address
  (ofError result, { session with records })

def record (session : Session σ) (address : Nat) : Except Fault BoundaryRecord :=
  ofError (session.records.read address)

/-- Releases a handle of a given kind: what it stood for. -/
def releaseKind (session : Session σ) (handle : Handle) (kind : Kind) :
    Except Fault Object × Session σ :=
  let (result, registry) := session.registry.releaseKind handle kind
  (ofError result, session.withRegistry registry)

def releaseSigner (session : Session σ) (handle : Handle) : Except Fault Unit × Session σ :=
  let (result, session) := session.releaseKind handle .signer
  (result.map fun _ => (), session)

/-- Releases the handle of a submission, and cancels it. -/
def releaseSubmission (session : Session σ) (handle : Handle) : Except Fault Unit × Session σ :=
  match session.releaseKind handle .submission with
  | (.ok (.submission number), session) =>
      (.ok (), { session with docket := session.docket.cancel number })
  | (result, session) => (result.map fun _ => (), session)

def releaseReceipt (session : Session σ) (handle : Handle) : Except Fault Unit × Session σ :=
  let (result, session) := session.releaseKind handle .receipt
  (result.map fun _ => (), session)

def chainId (session : Session σ) : Nat :=
  session.docket.tracker.chainId

def state (session : Session σ) : σ :=
  session.docket.world.ledger

def withState (session : Session σ) (state : σ) : Session σ :=
  { session with
    docket := { session.docket with world := { session.docket.world with ledger := state } } }

def metrics (session : Session σ) : Metrics :=
  session.docket.metrics.merge session.records.gauges

def debugText (session : Session σ) : String :=
  "Session \x7b endpoint: " ++ Quoted.encode session.endpoint
    ++ ", chain_id: " ++ toString session.chainId
    ++ ", live_handles: " ++ toString session.registry.size
    ++ ", outstanding_records: " ++ toString session.records.outstanding ++ " \x7d"

end Session

end Notary
