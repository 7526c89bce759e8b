import Notary.Boundary.Basic
import Notary.Proofs.Session.Run

namespace Notary.Boundary

/-!
The entry points of the boundary beside the operations of a session that they stand for: how each of
them decodes its arguments, what it then asks, and what a caller is given for a result or an error.
-/

/-- A call of an entry point with its arguments. Pointers to records are addresses, zero for null. -/
inductive Entry where
  | initializeClient (endpoint : TextArgument)
  | initializeClientWithConfig (endpoint path : TextArgument)
  | initializeSigner (seed : TextArgument)
  | doSubmitData (signer : Int32) (data : TextArgument) (appId : Int32)
  | doSubmitBytes (signer : Int32) (data : Option Bytes) (length : Nat) (appId : Int32)
  | getTransactionReceipt (submission : Int32)
  | submissionCancel (submission : Int32)
  | receiptNew (receipt : Int32)
  | receiptFree (address : Nat)
  | receiptBlockHeight (address : Nat)
  | receiptTransactionIndex (address : Nat)
  | receiptBlockHash (address : Nat)
  | receiptTransactionHash (address : Nat)
  | signerRelease (signer : Int32)
  | submissionRelease (submission : Int32)
  | receiptRelease (receipt : Int32)
  | lastErrorCode
  /-- A buffer with room for so many bytes, or a null pointer. -/
  | lastErrorMessage (room : Option Nat)

/-- What a caller is given. -/
inductive Answer where
  | nothing
  | number (value : Int)
  /-- The address of a record, or null. -/
  | address (record : Option Nat)
  /-- The bytes at a pointer into a record, or null. -/
  | view (bytes : Option Bytes)
  /-- The bytes written to a buffer, and the count that is returned. -/
  | written (buffer : Option Bytes) (count : Int)
  deriving DecidableEq

/-- What the boundary finds outside: the ledgers to dial, and the files. -/
structure Outside (σ : Type) where
  gateway : Gateway σ
  files : String → Config.File

variable {σ : Type}

def answer (outside : Outside σ) (boundary : Boundary σ) : Entry → Answer × Boundary σ
  | .initializeClient endpoint => (.nothing, boundary.initializeClient outside.gateway endpoint)
  | .initializeClientWithConfig endpoint path =>
      (boundary.initializeClientWithConfig outside.gateway outside.files endpoint path).map .number id
  | .initializeSigner seed => (boundary.initializeSigner seed).map .number id
  | .doSubmitData signer data appId =>
      (boundary.doSubmitData outside.gateway.ledger signer.toInt data appId.toInt).map .number id
  | .doSubmitBytes signer data length appId =>
      (boundary.doSubmitBytes outside.gateway.ledger signer.toInt data length appId.toInt).map
        .number id
  | .getTransactionReceipt submission =>
      (boundary.getTransactionReceipt outside.gateway.ledger submission.toInt).map .number id
  | .submissionCancel submission => (boundary.submissionCancel submission.toInt).map .number id
  | .receiptNew receipt => (boundary.receiptNew receipt.toInt).map .address id
  | .receiptFree address => (.nothing, boundary.receiptFree address)
  | .receiptBlockHeight address => (boundary.receiptBlockHeight address).map .number id
  | .receiptTransactionIndex address => (boundary.receiptTransactionIndex address).map .number id
  | .receiptBlockHash address => (boundary.receiptBlockHash address).map .view id
  | .receiptTransactionHash address => (boundary.receiptTransactionHash address).map .view id
  | .signerRelease signer => (boundary.signerRelease signer.toInt).map .number id
  | .submissionRelease submission => (boundary.submissionRelease submission.toInt).map .number id
  | .receiptRelease receipt => (boundary.receiptRelease receipt.toInt).map .number id
  | .lastErrorCode => (.number boundary.lastErrorCode, boundary)
  | .lastErrorMessage room =>
      let written := boundary.lastErrorMessage (room.getD 0)
      (.written written (writtenCount written), boundary)

/-- A call as it was answered, with the boundary before and after it. -/
structure Turn (σ : Type) where
  before : Boundary σ
  entry : Entry
  answer : Answer
  after : Boundary σ

/-- Answers calls one after the other: the turns, and the boundary they leave. -/
def run (outside : Outside σ) (boundary : Boundary σ) : List Entry → List (Turn σ) × Boundary σ
  | [] => ([], boundary)
  | entry :: rest =>
      let (answer, after) := boundary.answer outside entry
      let (turns, last) := run outside after rest
      (⟨boundary, entry, answer, after⟩ :: turns, last)

/-! What the entry points stand for. -/

/-- An operation with its arguments: on a session that is to be connected, or on the installed one. -/
inductive Operation (σ : Type) where
  | connect (endpoint : String) (config : Config) (done : Answer)
  | ask (request : Session.Request σ) (pass : request.Reply → Except Fault Answer)

/-- Its result as a caller is given it, and the session that it leaves installed. -/
def Operation.perform (outside : Outside σ) (session : Option (Session σ)) :
    Operation σ → Except Fault Answer × Option (Session σ)
  | .connect endpoint config done =>
      match session, Session.connect outside.gateway endpoint config with
      | some session, _ => (.error (.failure .alreadyInitialized), some session)
      | none, .error fault => (.error fault, none)
      | none, .ok session => (.ok done, some session)
  | .ask request pass =>
      match session with
      | none => (.error (.failure .notInitialized), none)
      | some session =>
          let (reply, after) := session.answer outside.gateway.ledger request
          (pass reply, some after)

def decodeClient (named : Option Config.File) (endpoint : TextArgument) :
    Except Fault (String × Config) := do
  let endpoint ← endpoint.text "endpoint"
  return (endpoint, ← loaded (Config.loadNamed named))

def decodeConfigured (files : String → Config.File) (endpoint path : TextArgument) :
    Except Fault (String × Config) := do
  let endpoint ← endpoint.text "endpoint"
  let path ← path.text "config path"
  return (endpoint, ← loaded (Config.load (files path)))

namespace Answer

def ofHandle (result : Except Fault Handle) : Except Fault Answer :=
  result.map fun handle => .number handle.raw

def ofUnit (result : Except Fault Unit) : Except Fault Answer :=
  result.map fun _ => .number 0

end Answer

open Answer (ofHandle ofUnit)

/-- The operation that a call stands for, or what is wrong with its arguments. The two calls that tell
the last error stand for none. -/
def Entry.operation (outside : Outside σ) (named : Option Config.File) :
    Entry → Option (Except Fault (Operation σ))
  | .initializeClient endpoint =>
      some ((decodeClient named endpoint).map fun (endpoint, config) =>
        .connect endpoint config .nothing)
  | .initializeClientWithConfig endpoint path =>
      some ((decodeConfigured outside.files endpoint path).map fun (endpoint, config) =>
        .connect endpoint config (.number 0))
  | .initializeSigner seed =>
      some ((seed.text "seed").map fun seed => .ask (.initializeSigner seed) ofHandle)
  | .doSubmitData signer data appId =>
      some ((data.bytes "data").map fun payload =>
        .ask (.submitData signer payload appId) ofHandle)
  | .doSubmitBytes signer data length appId =>
      some ((bytesAt data length).map fun payload =>
        .ask (.submitData signer payload appId) ofHandle)
  | .getTransactionReceipt submission =>
      some (.ok (.ask (.transactionReceipt submission none) ofHandle))
  | .submissionCancel submission => some (.ok (.ask (.cancelSubmission submission) ofUnit))
  | .receiptNew receipt => some (.ok (.ask (.receiptNew receipt) fun reply : Except Fault Nat =>
      reply.map fun address => .address (some address)))
  | .receiptFree address => some (.ok (.ask (.receiptFree address) fun reply : Except Fault Unit =>
      reply.map fun _ => .nothing))
  | .receiptBlockHeight address => some (.ok (.ask (.record address)
      fun reply : Except Fault BoundaryRecord => reply.map fun record => .number record.blockHeight))
  | .receiptTransactionIndex address => some (.ok (.ask (.record address)
      fun reply : Except Fault BoundaryRecord =>
        reply.map fun record => .number record.transactionIndex))
  | .receiptBlockHash address => some (.ok (.ask (.record address)
      fun reply : Except Fault BoundaryRecord =>
        reply.map fun record => .view (some record.blockHash.toBytes)))
  | .receiptTransactionHash address => some (.ok (.ask (.record address)
      fun reply : Except Fault BoundaryRecord =>
        reply.map fun record => .view (some record.transactionHash.toBytes)))
  | .signerRelease signer => some (.ok (.ask (.releaseSigner signer) ofUnit))
  | .submissionRelease submission => some (.ok (.ask (.releaseSubmission submission) ofUnit))
  | .receiptRelease receipt => some (.ok (.ask (.releaseReceipt receipt) ofUnit))
  | .lastErrorCode | .lastErrorMessage _ => none

/-- What a caller is given in place of a result. -/
def Entry.refusal (e : Error) : Entry → Answer
  | .initializeClient _ | .receiptFree _ => .nothing
  | .receiptNew _ => .address none
  | .receiptBlockHash _ | .receiptTransactionHash _ => .view none
  | .receiptBlockHeight _ | .receiptTransactionIndex _ => .number (-1)
  | _ => .number e.code

/-- The outcome of a decoded call: its result, and the session that is installed then. Arguments that
cannot be decoded leave the session alone. -/
def performed (outside : Outside σ) (session : Option (Session σ)) :
    Except Fault (Operation σ) → Except Fault Answer × Option (Session σ)
  | .error fault => (.error fault, session)
  | .ok operation => operation.perform outside session

def Entry.outcome? (outside : Outside σ) (boundary : Boundary σ) (entry : Entry) :
    Option (Except Fault Answer × Option (Session σ)) :=
  (entry.operation outside boundary.namedConfig).map (performed outside boundary.session)

/-- The error that a call ended with, if it failed. -/
def Turn.error? (outside : Outside σ) (turn : Turn σ) : Option Error :=
  match turn.entry.outcome? outside turn.before with
  | some (.error fault, _) => some fault.contain
  | _ => none

/-- The error of the last call that failed. -/
def lastFailure (outside : Outside σ) (turns : List (Turn σ)) : Option Error :=
  turns.reverse.findSome? (Turn.error? outside)

end Notary.Boundary
