import Notary.Registry.Handle
import Notary.Transaction.Basic

namespace Notary

/-!
Submissions: transactions that the network accepted, with the outcome of the wait for their finality
once there is one.
-/

/-- Where a transaction landed, as the ledger reports it. -/
structure InclusionReport where
  blockNumber : Nat
  blockHash : Hash
  transactionIndex : Nat
  transactionHash : Hash
  /-- False where the transaction was included and reverted. -/
  success : Bool
  deriving DecidableEq, Repr, Inhabited

/-- Where a transaction stands for good. -/
structure FinalityRecord where
  blockHeight : Nat
  blockHash : Hash
  transactionIndex : Nat
  transactionHash : Hash
  deriving DecidableEq, Repr, Inhabited

def FinalityRecord.ofReport (report : InclusionReport) : FinalityRecord where
  blockHeight := report.blockNumber
  blockHash := report.blockHash
  transactionIndex := report.transactionIndex
  transactionHash := report.transactionHash

structure SubmitOptions where
  appId : Nat
  /-- A nonce of the caller's own, in place of the next one of the account. -/
  nonce : Option Nat := none
  /-- A mortality window in place of the configured one. -/
  mortalityBlocks : Option Nat := none
  deriving DecidableEq, Repr

structure Submission where
  transaction : SignedTransaction
  payloadLength : Nat
  /-- The head's height just before the transaction was sent. -/
  submittedAt : Nat
  mortalityBlocks : Option Nat
  deriving DecidableEq, Repr, Inhabited

namespace Submission

def hash (submission : Submission) : Hash :=
  submission.transaction.hash

inductive State where
  /-- Sent, and its outcome not known yet. -/
  | sent
  /-- Final; the record is registered under the receipt. -/
  | finalized (receipt : Handle)
  /-- Failed for good; every later caller gets the same error. -/
  | failed (error : Error)
  deriving DecidableEq, Repr, Inhabited

/-- A submission with its outcome and its cancel signal, which once set stays set. -/
structure Case where
  submission : Submission
  state : State
  cancelled : Bool
  deriving DecidableEq, Repr, Inhabited

def opened (submission : Submission) : Case :=
  ⟨submission, .sent, false⟩

/-- Whether a failure settles the outcome of a submission. -/
def isTerminal : Error → Bool
  | .timeout _ | .rejected _ | .notFound _ | .cancelled => true
  | _ => false

end Submission

end Notary
