import Notary.Registry.Basic
import Notary.Tracker.Finality
import Notary.Tracker.Submitting

namespace Notary

/-!
The docket: the tracker at work on a ledger, with the cases it has opened, in order, and the
registry its receipts go to. A case is settled once, and what settled it is given to every later
caller. Each operation tells the time it took, in milliseconds.
-/

structure Docket (σ : Type) where
  tracker : Tracker
  world : World σ
  cases : Array Submission.Case
  registry : Registry

namespace Docket

variable {σ : Type}

def opened (tracker : Tracker) (registry : Registry) (state : σ) : Docket σ :=
  ⟨tracker, ⟨state, .empty, .empty⟩, #[], registry⟩

def file (docket : Docket σ) (submission : Submission) : Nat × Docket σ :=
  (docket.cases.size, { docket with cases := docket.cases.push (Submission.opened submission) })

/-- The case of a number. A number without a case is an invalid handle. -/
def find (docket : Docket σ) (number : Nat) : Except Fault Submission.Case :=
  match docket.cases[number]? with
  | none => .error (.failure (.invalidHandle number))
  | some found => .ok found

def setState (docket : Docket σ) (number : Nat) (state : Submission.State) : Docket σ :=
  { docket with cases := docket.cases.modify number fun found => { found with state } }

def cancel (docket : Docket σ) (number : Nat) : Docket σ :=
  { docket with cases := docket.cases.modify number fun found => { found with cancelled := true } }

def perform {α : Type} (ledger : Ledger σ) (task : Task α) (docket : Docket σ) :
    Except Fault α × Nat × Docket σ :=
  let (result, ms, world) := Program.runAll ledger task.run 0 docket.world
  (result, ms, { docket with world })

def prepare (ledger : Ledger σ) (sender : Address) (length : Nat) (options : SubmitOptions)
    (docket : Docket σ) : Except Fault Terms × Nat × Docket σ :=
  docket.perform ledger (docket.tracker.prepare sender length options)

def submit (ledger : Ledger σ) (signer : Signer) (payload : Bytes) (options : SubmitOptions)
    (docket : Docket σ) : Except Fault Nat × Nat × Docket σ :=
  match docket.perform ledger (docket.tracker.submit signer payload options) with
  | (.error fault, ms, docket) => (.error fault, ms, docket)
  | (.ok submission, ms, docket) =>
      let (number, docket) := docket.file submission
      (.ok number, ms, docket)

def fileResult (docket : Docket σ) (result : Except Error Submission) :
    Except Error Nat × Docket σ :=
  match result with
  | .error e => (.error e, docket)
  | .ok submission =>
      let (number, docket) := docket.file submission
      (.ok number, docket)

/-- More wakings than two submissions side by side have: each of them pauses at most at its four
calls. -/
def wakings : Nat := 16

/-- Whether a result ends what runs beside it. -/
def isBreakdown {α : Type} : Except Fault α → Bool
  | .error (.breakdown _) => true
  | _ => false

def reported {α : Type} : Except Fault α → Except Fault (Except Error α)
  | .ok value => .ok (.ok value)
  | .error (.failure e) => .ok (.error e)
  | .error (.breakdown message) => .error (.breakdown message)

/-- Submits two payloads side by side. A breakdown of one ends both. -/
def submitBoth (ledger : Ledger σ) (signer : Signer) (first second : Bytes)
    (options : SubmitOptions) (docket : Docket σ) :
    Except Fault (Except Error Nat × Except Error Nat) × Nat × Docket σ :=
  let tracker := docket.tracker
  let (joined, ms, world) :=
    Program.join ledger isBreakdown wakings (tracker.submit signer first options).run
      (tracker.submit signer second options).run docket.world
  let docket := { docket with world }
  let outcome : Except Fault (Except Error Submission × Except Error Submission) :=
    match joined with
    | .both a b => do return (← reported a, ← reported b)
    | .aborted (.error fault) => .error fault
    | _ => .error (.breakdown none)
  match outcome with
  | .error fault => (.error fault, ms, docket)
  | .ok (a, b) =>
      let (a, docket) := docket.fileResult a
      let (b, docket) := docket.fileResult b
      (.ok (a, b), ms, docket)

def check (ledger : Ledger σ) (number : Nat) (docket : Docket σ) :
    Except Fault Tracker.Status × Nat × Docket σ :=
  match docket.find number with
  | .error fault => (.error fault, 0, docket)
  | .ok found => docket.perform ledger (docket.tracker.check found.submission)

/-- Waits for a case's transaction and settles nothing. -/
def await (ledger : Ledger σ) (number : Nat) (cancelAt : Option Nat) (docket : Docket σ) :
    Except Fault FinalityRecord × Nat × Docket σ :=
  match docket.find number with
  | .error fault => (.error fault, 0, docket)
  | .ok found =>
      let (result, ms, world) :=
        docket.tracker.awaitFinality ledger found.submission found.cancelled cancelAt docket.world
      (result, ms, { docket with world })

/-- Settles a case by the result of a wait. What does not fit into the registry settles nothing, nor
does a failure that a later wait may not meet. -/
def settle (docket : Docket σ) (number : Nat) (result : Except Fault FinalityRecord) :
    Except Fault Handle × Docket σ :=
  match result with
  | .ok record =>
      match docket.registry.register (.receipt record) with
      | (.error e, registry) => (.error (.failure e), { docket with registry })
      | (.ok receipt, registry) =>
          (.ok receipt, { docket with registry }.setState number (.finalized receipt))
  | .error (.failure e) =>
      (.error (.failure e),
        if Submission.isTerminal e then docket.setState number (.failed e) else docket)
  | .error fault => (.error fault, docket)

/-- The outcome of a settled case: its receipt, as long as it is registered, or its error. -/
def outcome? (docket : Docket σ) (found : Submission.Case) : Option (Except Error Handle) :=
  match found.state with
  | .sent => none
  | .finalized receipt =>
      match docket.registry.receipt receipt with
      | .ok _ => some (.ok receipt)
      | .error _ => some (.error (.alreadyResolved found.submission.hash.text))
  | .failed e => some (.error e)

def resolve (ledger : Ledger σ) (number : Nat) (cancelAt : Option Nat) (docket : Docket σ) :
    Except Fault Handle × Nat × Docket σ :=
  match docket.find number with
  | .error fault => (.error fault, 0, docket)
  | .ok found =>
      match docket.outcome? found with
      | some (.ok receipt) => (.ok receipt, 0, docket)
      | some (.error e) => (.error (.failure e), 0, docket)
      | none =>
          let (result, ms, docket) := docket.await ledger number cancelAt
          let (result, docket) := docket.settle number result
          (result, ms, docket)

/-- Two callers that resolve one case at the same time: the second one waits for the first. -/
def resolveBoth (ledger : Ledger σ) (number : Nat) (cancelAt : Option Nat) (docket : Docket σ) :
    Except Fault (Except Error Handle × Except Error Handle) × Nat × Docket σ :=
  let (a, firstMs, docket) := docket.resolve ledger number cancelAt
  match reported a with
  | .error fault => (.error fault, firstMs, docket)
  | .ok a =>
      let (b, secondMs, docket) :=
        docket.resolve ledger number (cancelAt.map fun instant => instant - firstMs)
      match reported b with
      | .error fault => (.error fault, firstMs + secondMs, docket)
      | .ok b => (.ok (a, b), firstMs + secondMs, docket)

/-- An operation on a case beside which the case is cancelled at an instant: both are over when the
later one is. A breakdown ends both. -/
def beside {α : Type} (number : Nat) (cancelAt : Option Nat)
    (after : Except Fault α × Nat × Docket σ) : Except Fault α × Nat × Docket σ :=
  let (result, ms, docket) := after
  match cancelAt with
  | none => (result, ms, docket)
  | some instant =>
      if isBreakdown result then (result, ms, docket)
      else (result, max ms instant, docket.cancel number)

/-- The state of a case, and whether its cancel signal is set. -/
def state (docket : Docket σ) (number : Nat) : Except Fault Submission.State :=
  (docket.find number).map (·.state)

def isCancelled (docket : Docket σ) (number : Nat) : Except Fault Bool :=
  (docket.find number).map (·.cancelled)

def metrics (docket : Docket σ) : Metrics :=
  docket.world.metrics.merge docket.registry.gauges

end Docket

end Notary
