import Notary.Tracker.Basic

namespace Notary.Tracker

/-!
Submitting a payload: the price, a nonce, the signature and the broadcast. A nonce that was drawn
for the submission goes back only where the transaction cannot have reached a pool.
-/

/-- The failures of a submission are failures to broadcast. -/
def asBroadcast : Error → Error
  | .broadcast reason => .broadcast reason
  | other => .broadcast other.message

/-- The caller's nonce, or the next one of the account. -/
def chooseNonce (sender : Address) (options : SubmitOptions) : Task Nat := do
  match options.nonce with
  | some nonce => return nonce
  | none =>
      let pending : Nat ← Task.ask (.pendingNonce sender)
      Task.reserve sender pending

/-- The terms of a transaction that carries `length` bytes. -/
def prepare (tracker : Tracker) (sender : Address) (length : Nat) (options : SubmitOptions) :
    Task Terms := do
  let reported : Nat ← Task.ask .gasPrice
  let gasPrice ← Task.ofResult (tracker.offeredPrice reported)
  let nonce ← chooseNonce sender options
  let dataLength ← Task.settled (Checked.add 64 AppData.idLength length)
  let gasLimit ← Task.settled (AppData.gasLimit dataLength)
  return ⟨tracker.chainId, nonce, gasPrice, gasLimit, tracker.recipientFor sender⟩

/-- Gives the nonce back if it was drawn for the submission. -/
def giveBack (sender : Address) (options : SubmitOptions) (nonce : Nat) : Task Unit := do
  if options.nonce.isNone then
    let _ ← Task.release sender nonce

/-- Sends a signed transaction. A pool that holds it already has accepted it. -/
def broadcast (options : SubmitOptions) (signed : SignedTransaction) : Task Unit := do
  match ← (Task.ask (.sendRaw signed.raw)).attempt with
  | .ok _ => return ()
  | .error (.failure e) =>
      if Rejection.isAlreadyKnown e.message then return ()
      else
        giveBack signed.sender options signed.nonce
        Task.fail (asBroadcast e)
  | .error fault => throw fault

/-- The steps of a submission, uncounted. -/
def attemptSubmit (tracker : Tracker) (signer : Signer) (payload : Bytes)
    (options : SubmitOptions) : Task Submission := do
  let submittedAt : Nat ← (Task.ask .blockNumber).mapFailure asBroadcast
  let terms ← (tracker.prepare signer.address payload.length options).mapFailure asBroadcast
  match signer.signPayload payload options.appId terms with
  | .error e =>
      giveBack signer.address options terms.nonce
      Task.fail e
  | .ok signed =>
      broadcast options signed
      return {
        transaction := signed
        payloadLength := payload.length
        submittedAt := submittedAt
        mortalityBlocks := options.mortalityBlocks <|> tracker.submission.mortalityBlocks }

def submit (tracker : Tracker) (signer : Signer) (payload : Bytes) (options : SubmitOptions) :
    Task Submission := do
  match ← (tracker.attemptSubmit signer payload options).attempt with
  | .ok submission =>
      Task.note (.submissions "accepted")
      return submission
  | .error (.failure e) =>
      Task.note (.submissions "failed")
      Task.fail e
  | .error fault => throw fault

end Notary.Tracker
