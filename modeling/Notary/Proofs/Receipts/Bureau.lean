import Notary.Proofs.Delivery.Inclusions
import Notary.Proofs.Program.Crew
import Notary.Proofs.Session.Desk

namespace Notary

/-!
A session over the ledger in memory whose callers are under way at the same time. A submission and a wait
for a receipt take their steps one by one, each of them one call of the ledger at most, and anything else
can happen in between: other errands go on, the controls of the ledger are moved, and others call it.
-/

namespace Bureau

/-- What a caller of a session has under way. -/
inductive Errand where
  | submitting (rest : Program (Except Fault Submission))
  /-- The transaction was sent, and filed as a case. -/
  | filed (number : Nat)
  | resolving (number : Nat) (rest : Program (Except Fault FinalityRecord))
  | ended

def Errand.resolves (number : Nat) : Errand → Bool
  | resolving other _ => other = number
  | _ => false

inductive Act where
  | submit (word : Int32) (payload : Bytes) (options : SubmitOptions)
  | resolve (word : Int32)
  /-- An errand takes its next step, or comes to its end. -/
  | advance (errand : Nat)
  /-- A wait is broken off because its time is up, or because its case was cancelled. -/
  | interrupt (errand : Nat) (cancelled : Bool)
  /-- A request that takes no call. -/
  | request (request : Session.Request Chain)
  | control (control : Chain.Control)
  /-- Someone else calls the ledger. -/
  | call (call : Call)

inductive Event where
  | quiet
  | served (turn : Crew.Turn)
  | resolved (number : Nat) (answer : Except Fault Handle)

end Bureau

/-- A session over the ledger in memory under callers that come at the same time: each step of theirs is
one act, with its reply. -/
abbrev Bureau := Desk Chain Bureau.Errand

namespace Bureau

abbrev Turn := Schedule.Turn Bureau Act Event

def chain (bureau : Bureau) : Chain := bureau.session.state

def cases (bureau : Bureau) : Array Submission.Case := bureau.docket.cases

def withState (bureau : Bureau) (chain : Chain) : Bureau :=
  { bureau with session := bureau.session.withState chain }

/-- The wait for a case. It is over at once where the case is cancelled. -/
def waitFor (tracker : Tracker) (found : Submission.Case) :
    Program (Except Fault FinalityRecord) :=
  if found.cancelled then .done (.error (.failure .cancelled))
  else (tracker.poll found.submission tracker.rounds tracker.freshBackoff).run

/-- Begins to wait for a case that is not settled. While another errand waits for it, nothing begins. -/
def resolve (bureau : Bureau) (number : Nat) : Event × Bureau :=
  match bureau.docket.find number with
  | .error fault => (.resolved number (.error fault), bureau)
  | .ok found =>
      match bureau.docket.outcome? found with
      | some outcome => (.resolved number (outcome.mapError .failure), bureau)
      | none =>
          if bureau.errands.any (Errand.resolves number) then (.quiet, bureau)
          else (.quiet, bureau.add (.resolving number (waitFor bureau.tracker found)))

def interrupt (bureau : Bureau) (errand : Nat) (cancelled : Bool) : Bureau :=
  match bureau.errands[errand]? with
  | some (.resolving number (.step _ _)) =>
      let e := if cancelled then .cancelled else bureau.tracker.lateError
      bureau.put errand (.resolving number (.done (.error (.failure e))))
  | _ => bureau

/-- Settles a case by the result of its wait. -/
def settle (bureau : Bureau) (errand number : Nat) (result : Except Fault FinalityRecord) :
    Event × Bureau :=
  let (answer, after) := Desk.settle bureau errand number result .ended
  (.resolved number answer, after)

variable [Chain.Surroundings]

def serve (bureau : Bureau) (errand : Nat) (step : Step) (next : step.Reply → Errand) :
    Event × Bureau :=
  let (reply, world) := bureau.docket.world.serve Chain.ledger step
  (.served ⟨errand, step, reply⟩,
    (bureau.withDocket { bureau.docket with world }).put errand (next reply))

def advance (bureau : Bureau) (errand : Nat) : Event × Bureau :=
  match bureau.errands[errand]? with
  | some (.submitting (.step step next)) =>
      bureau.serve errand step fun reply => .submitting (next reply)
  | some (.submitting (.done (.ok submission))) => (.quiet, bureau.file errand submission .filed)
  | some (.submitting (.done (.error _))) => (.quiet, bureau.put errand .ended)
  | some (.resolving number (.step step next)) =>
      bureau.serve errand step fun reply => .resolving number (next reply)
  | some (.resolving number (.done result)) => bureau.settle errand number result
  | _ => (.quiet, bureau)

def act (bureau : Bureau) : Act → Event × Bureau
  | .submit word payload options =>
      match bureau.session.registry.signer (.ofWord word) with
      | .error _ => (.quiet, bureau)
      | .ok signer =>
          let rest := (bureau.tracker.submit signer payload options).run
          (.quiet, bureau.add (.submitting rest))
  | .resolve word =>
      match bureau.session.registry.submission (.ofWord word) with
      | .error _ => (.quiet, bureau)
      | .ok number => bureau.resolve number
  | .advance errand => bureau.advance errand
  | .interrupt errand cancelled => (.quiet, bureau.interrupt errand cancelled)
  | .request request => (.quiet, bureau.request Chain.ledger request)
  | .control control => (.quiet, bureau.withState (bureau.chain.control control))
  | .call call => (.quiet, bureau.withState (bureau.chain.answer call).2)

def run (bureau : Bureau) (acts : List Act) : List Turn × Bureau :=
  Schedule.run act bureau acts

/-- A session over a fresh ledger, with nothing under way. -/
def opened (endpoint : String) (tracker : Tracker) (capacity lag : Nat) : Bureau :=
  ⟨.opened endpoint tracker capacity (.withLag lag), []⟩

end Bureau

end Notary
