import Notary.Session

namespace Notary

/-!
The boundary for callers that can only pass numbers, pointers and texts that end with a zero byte.
One session is installed at most. A call that fails, or breaks down, answers with a negative code or
with nothing, and its error is kept until the next call that fails.
-/

structure Boundary (σ : Type) where
  session : Option (Session σ)
  lastError : Option Error
  logging : Bool
  namedConfig : Option Config.File

/-- A text in memory: the bytes at its pointer, or nothing where the pointer is null. -/
abbrev TextArgument := Option Bytes

namespace TextArgument

/-- The bytes before the first zero byte. -/
def bytes (argument : TextArgument) (what : String) : Except Fault Bytes :=
  match argument with
  | none => .error (.failure (.invalidArgument (what ++ " is null")))
  | some bytes => .ok (bytes.takeWhile (· != 0))

def text (argument : TextArgument) (what : String) : Except Fault String := do
  let bytes ← argument.bytes what
  match String.fromUTF8? ⟨bytes.toArray⟩ with
  | none => .error (.failure (.invalidArgument (what ++ " is not valid UTF-8")))
  | some text => .ok text

end TextArgument

namespace Boundary

variable {σ α : Type}

def fresh : Boundary σ :=
  ⟨none, none, false, none⟩

def initLogging (boundary : Boundary σ) : Bool × Boundary σ :=
  (!boundary.logging, { boundary with logging := true })

/-- Runs an operation of the boundary: what goes wrong is kept, a breakdown as an internal error. -/
def call (operation : Boundary σ → Except Fault α × Boundary σ) (boundary : Boundary σ) :
    Except Error α × Boundary σ :=
  match operation boundary with
  | (.ok value, boundary) => (.ok value, boundary)
  | (.error fault, boundary) =>
      (.error fault.contain, { boundary with lastError := some fault.contain })

def installed (boundary : Boundary σ) : Except Fault (Session σ) :=
  match boundary.session with
  | none => .error (.failure .notInitialized)
  | some session => .ok session

def onSession (operation : Session σ → Except Fault α × Session σ) (boundary : Boundary σ) :
    Except Fault α × Boundary σ :=
  match boundary.installed with
  | .error fault => (.error fault, boundary)
  | .ok session =>
      let (result, session) := operation session
      (result, { boundary with session := some session })

def withArgument {β : Type} (argument : Except Fault β)
    (operation : β → Session σ → Except Fault α × Session σ) (boundary : Boundary σ) :
    Except Fault α × Boundary σ :=
  match argument with
  | .error fault => (.error fault, boundary)
  | .ok value => boundary.onSession (operation value)

def install (session : Session σ) (boundary : Boundary σ) : Except Fault Unit × Boundary σ :=
  if boundary.session.isSome then (.error (.failure .alreadyInitialized), boundary)
  else (.ok (), { boundary with session := some session })

/-- A number in place of a result: the code of the error where there is one. -/
def orCode : Except Error Int → Int
  | .ok value => value
  | .error e => e.code

def handleOrCode (result : Except Error Handle) : Int :=
  orCode (result.map (·.raw))

def zeroOrCode (result : Except Error Unit) : Int :=
  orCode (result.map fun _ => 0)

def start (gateway : Gateway σ) (endpoint : String) (config : Config) (boundary : Boundary σ) :
    Except Fault Unit × Boundary σ :=
  if boundary.session.isSome then (.error (.failure .alreadyInitialized), boundary)
  else
    let boundary := boundary.initLogging.2
    match Session.connect gateway endpoint config with
    | .error fault => (.error fault, boundary)
    | .ok session => boundary.install session

def loaded (result : Except Config.LoadError Config) : Except Fault Config :=
  result.mapError fun e => .failure e.toError

def initializeClient (gateway : Gateway σ) (endpoint : TextArgument) (boundary : Boundary σ) :
    Boundary σ :=
  let operation (boundary : Boundary σ) : Except Fault Unit × Boundary σ :=
    let arguments : Except Fault (String × Config) := do
      let endpoint ← endpoint.text "endpoint"
      return (endpoint, ← loaded (Config.loadNamed boundary.namedConfig))
    match arguments with
    | .error fault => (.error fault, boundary)
    | .ok (endpoint, config) => boundary.start gateway endpoint config
  (boundary.call operation).2

def initializeClientWithConfig (gateway : Gateway σ) (files : String → Config.File)
    (endpoint path : TextArgument) (boundary : Boundary σ) : Int × Boundary σ :=
  let operation (boundary : Boundary σ) : Except Fault Unit × Boundary σ :=
    let arguments : Except Fault (String × Config) := do
      let endpoint ← endpoint.text "endpoint"
      let path ← path.text "config path"
      return (endpoint, ← loaded (Config.load (files path)))
    match arguments with
    | .error fault => (.error fault, boundary)
    | .ok (endpoint, config) => boundary.start gateway endpoint config
  let (result, boundary) := boundary.call operation
  (zeroOrCode result, boundary)

def initializeSigner (seed : TextArgument) (boundary : Boundary σ) : Int × Boundary σ :=
  let (result, boundary) :=
    boundary.call (withArgument (seed.text "seed") fun seed session =>
      session.initializeSigner seed)
  (handleOrCode result, boundary)

def doSubmitData (ledger : Ledger σ) (signer : Int) (data : TextArgument) (appId : Int)
    (boundary : Boundary σ) : Int × Boundary σ :=
  let (result, boundary) :=
    boundary.call (withArgument (data.bytes "data") fun payload session =>
      session.submitData ledger ⟨signer⟩ payload appId)
  (handleOrCode result, boundary)

/-- The first `length` bytes at a pointer, which may be null for none. -/
def bytesAt (data : Option Bytes) (length : Nat) : Except Fault Bytes :=
  if length = 0 then .ok []
  else
    match data with
    | none => .error (.failure (.invalidArgument "data is null"))
    | some bytes => .ok (bytes.take length)

def doSubmitBytes (ledger : Ledger σ) (signer : Int) (data : Option Bytes) (length : Nat)
    (appId : Int) (boundary : Boundary σ) : Int × Boundary σ :=
  let (result, boundary) :=
    boundary.call (withArgument (bytesAt data length) fun payload session =>
      session.submitData ledger ⟨signer⟩ payload appId)
  (handleOrCode result, boundary)

def getTransactionReceipt (ledger : Ledger σ) (submission : Int) (boundary : Boundary σ) :
    Int × Boundary σ :=
  let (result, boundary) :=
    boundary.call (onSession fun session => session.transactionReceipt ledger ⟨submission⟩ none)
  (handleOrCode result, boundary)

def submissionCancel (submission : Int) (boundary : Boundary σ) : Int × Boundary σ :=
  let (result, boundary) :=
    boundary.call (onSession fun session => session.cancelSubmission ⟨submission⟩)
  (zeroOrCode result, boundary)

/-- The address of a new record of a receipt, or null. -/
def receiptNew (receipt : Int) (boundary : Boundary σ) : Option Nat × Boundary σ :=
  let (result, boundary) := boundary.call (onSession fun session => session.receiptNew ⟨receipt⟩)
  (result.toOption, boundary)

def receiptFree (address : Nat) (boundary : Boundary σ) : Boundary σ :=
  (boundary.call (onSession fun session => session.receiptFree address)).2

def ofRecord (address : Nat) (view : BoundaryRecord → α) (boundary : Boundary σ) :
    Option α × Boundary σ :=
  let (result, boundary) :=
    boundary.call (onSession fun session => ((session.record address).map view, session))
  (result.toOption, boundary)

def receiptBlockHeight (address : Nat) (boundary : Boundary σ) : Int × Boundary σ :=
  let (height, boundary) := boundary.ofRecord address fun record => (record.blockHeight : Int)
  (height.getD (-1), boundary)

def receiptTransactionIndex (address : Nat) (boundary : Boundary σ) : Int × Boundary σ :=
  let (index, boundary) := boundary.ofRecord address fun record => (record.transactionIndex : Int)
  (index.getD (-1), boundary)

/-- The bytes at the pointer into a record, or null. -/
def receiptBlockHash (address : Nat) (boundary : Boundary σ) : Option Bytes × Boundary σ :=
  boundary.ofRecord address fun record => record.blockHash.toBytes

def receiptTransactionHash (address : Nat) (boundary : Boundary σ) : Option Bytes × Boundary σ :=
  boundary.ofRecord address fun record => record.transactionHash.toBytes

def signerRelease (signer : Int) (boundary : Boundary σ) : Int × Boundary σ :=
  let (result, boundary) := boundary.call (onSession fun session => session.releaseSigner ⟨signer⟩)
  (zeroOrCode result, boundary)

def submissionRelease (submission : Int) (boundary : Boundary σ) : Int × Boundary σ :=
  let (result, boundary) :=
    boundary.call (onSession fun session => session.releaseSubmission ⟨submission⟩)
  (zeroOrCode result, boundary)

def receiptRelease (receipt : Int) (boundary : Boundary σ) : Int × Boundary σ :=
  let (result, boundary) :=
    boundary.call (onSession fun session => session.releaseReceipt ⟨receipt⟩)
  (zeroOrCode result, boundary)

def lastErrorCode (boundary : Boundary σ) : Int :=
  (boundary.lastError.map Error.code).getD 0

def lastErrorText (boundary : Boundary σ) : String :=
  (boundary.lastError.map Error.message).getD ""

/-- What is written to a buffer of `length` bytes: the text of the last failure as far as it fits,
and a zero byte. Nothing is written to a buffer without room. -/
def lastErrorMessage (length : Nat) (boundary : Boundary σ) : Option Bytes :=
  if length = 0 then none
  else some ((Bytes.ofText boundary.lastErrorText).take (length - 1) ++ [0])

/-- The number of bytes written before the zero byte, cut to a signed word, or -1 where there is no
buffer. -/
def writtenCount : Option Bytes → Int
  | none => -1
  | some written => (Int32.ofNat (written.length - 1)).toInt

end Boundary

end Notary
