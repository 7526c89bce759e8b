import Notary.Backoff
import Notary.Tracker.Basic

namespace Notary.Tracker

/-!
Waiting for finality. A check asks where a transaction was included, whether the block is final, and
whether it still is the block at its height; checks are repeated until one of them decides, and
failures in a row are borne as long as the budget lasts.
-/

inductive Status where
  | pending
  /-- Included, and final once `current` has reached `target`. -/
  | confirming (current target : Nat)
  | confirmed (record : FinalityRecord)
  /-- Included and reverted. -/
  | failed (reason : String)
  deriving DecidableEq, Repr, Inhabited

def revertText (hash : Hash) (block : Nat) : String :=
  "transaction " ++ hash.text ++ " reverted in block " ++ toString block

/-- Without an inclusion, a transaction is pending until the head has passed its window. -/
def checkWindow (submission : Submission) : Task Status := do
  match submission.mortalityBlocks with
  | none => return .pending
  | some window =>
      let head : Nat ← Task.ask .blockNumber
      if Checked.saturatingAdd 64 submission.submittedAt window < head then
        Task.fail (.notFound submission.hash.text)
      else return .pending

/-- How far the chain is from making a block final: none where it is. -/
def checkDepth (tracker : Tracker) (block : Nat) : Task (Option Status) := do
  match tracker.finality.mode with
  | .finalized =>
      let finalized : Option Nat ← Task.ask .finalizedBlockNumber
      match finalized with
      | none => return some (.confirming 0 block)
      | some height => return if block ≤ height then none else some (.confirming height block)
  | .confirmations =>
      let head : Nat ← Task.ask .blockNumber
      let target ← Task.settled (Checked.add 64 block tracker.finality.confirmationBlocks)
      return if target ≤ head then none else some (.confirming head target)

/-- Whether the block of a report still stands at its height. -/
def checkCanonical (report : InclusionReport) : Task Status := do
  let canonical : Option Hash ← Task.ask (.blockHash report.blockNumber)
  return if canonical = some report.blockHash then .confirmed (.ofReport report) else .pending

def check (tracker : Tracker) (submission : Submission) : Task Status := do
  let report : Option InclusionReport ← Task.ask (.inclusion submission.hash)
  match report with
  | none => checkWindow submission
  | some report =>
      if !report.success then return .failed (revertText submission.hash report.blockNumber)
      else
        match ← tracker.checkDepth report.blockNumber with
        | some status => return status
        | none => checkCanonical report

def freshBackoff (tracker : Tracker) : Backoff where
  base := tracker.finality.backoffBaseMs
  ceiling := tracker.finality.backoffMaxMs
  budget := tracker.finality.maxRpcFailures

def lateError (tracker : Tracker) : Error :=
  .timeout tracker.finality.timeoutSecs

/-- The jitter of the delay that the next failure has; none is drawn once the budget is spent. -/
def drawJitter (backoff : Backoff) : Task Nat := do
  if backoff.failures < backoff.budget then
    let delay := Backoff.delay backoff.base backoff.ceiling (backoff.failures + 1)
    let jitter ← Task.draw (Backoff.mostJitter delay)
    return jitter
  else return 0

/-- Repeats the check for so many rounds. A transaction that is not found is lost for good; any
other failure is borne while the budget lasts, and a check that succeeds renews it. -/
def poll (tracker : Tracker) (submission : Submission) : (rounds : Nat) → Backoff →
    Task FinalityRecord
  | 0, _ => Task.fail tracker.lateError
  | rounds + 1, backoff => do
      match ← (tracker.check submission).attempt with
      | .ok (.confirmed record) => return record
      | .ok (.failed reason) => Task.fail (.rejected reason)
      | .ok _ =>
          Task.pause tracker.finality.pollIntervalMs
          poll tracker submission rounds backoff.reset
      | .error (.failure (.notFound transaction)) => Task.fail (.notFound transaction)
      | .error (.failure e) =>
          let jitter ← drawJitter backoff
          let (delay, counted) := backoff.fail jitter
          match ← Task.settled delay with
          | none => Task.fail e
          | some delay =>
              Task.pause delay
              poll tracker submission rounds counted
      | .error fault => throw fault

/-- The seconds that a clock can count. -/
def clockLimit : Nat := 0x7fff_ffff_ffff_ffff

/-- The deadline of a wait, in milliseconds from its start. A time that no clock can count is cut to
thirty years of 365 days. -/
def deadline (tracker : Tracker) : Nat :=
  let seconds := tracker.finality.timeoutSecs
  1000 * (if seconds < clockLimit then seconds else 30 * 365 * 86400)

/-- More rounds than a wait can begin before its deadline: a millisecond passes from one check that
succeeds to the next, and between two of them the budget bounds the failures. -/
def rounds (tracker : Tracker) : Nat :=
  (tracker.deadline + 2) * (tracker.finality.maxRpcFailures + 2)

variable {σ : Type}

/-- Counts how a wait ended; a breakdown counts as nothing. -/
def noteResolution (result : Except Fault FinalityRecord) (metrics : Metrics) : Metrics :=
  match result with
  | .ok _ => (metrics.increment (.resolutions "finalized")).increment .finalityTimes
  | .error (.failure e) => metrics.increment (.resolutions e.kind)
  | .error (.breakdown _) => metrics

/-- The wait itself: its result, the time it took and what it left. -/
def wait (ledger : Ledger σ) (tracker : Tracker) (submission : Submission) (cancelAt : Option Nat)
    (world : World σ) : Except Fault FinalityRecord × Nat × World σ :=
  let limits : Limits := ⟨some tracker.deadline, cancelAt⟩
  let program := tracker.poll submission tracker.rounds tracker.freshBackoff
  match Program.run ledger limits program.run 0 world with
  | (.finished result, ms, world) => (result, ms, world)
  | (.timedOut, ms, world) => (.error (.failure tracker.lateError), ms, world)
  | (.cancelled, ms, world) => (.error (.failure .cancelled), ms, world)

/-- Waits until a submission's transaction is final, and counts how it ended. With the cancel signal
already set nothing is asked at all. -/
def awaitFinality (ledger : Ledger σ) (tracker : Tracker) (submission : Submission)
    (signalled : Bool) (cancelAt : Option Nat) (world : World σ) :
    Except Fault FinalityRecord × Nat × World σ :=
  let (result, ms, world) :=
    if signalled then (.error (.failure .cancelled), 0, world)
    else tracker.wait ledger submission cancelAt world
  (result, ms, { world with metrics := noteResolution result world.metrics })

end Notary.Tracker
