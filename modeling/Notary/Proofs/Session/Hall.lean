import Notary.Proofs.Program.Exchange
import Notary.Proofs.Session.Desk

namespace Notary

/-!
A session whose callers come at the same time, over any ledger. Whoever wants the receipt of a submission
has a reference to its case, gets the case for itself once nobody else has it, and then waits; every
step of a wait is taken for itself, and so is the reply to it, so that anything can happen in between.
-/

/-- The call of the ledger that a step makes. -/
def Step.call? : Step → Option Call
  | ask call => some call
  | _ => none

/-- A program under way, either about to take a step or waiting for the reply to one. -/
inductive Stage (σ α : Type) where
  | ready (rest : Program α)
  | waiting (resume : World σ → Program α × World σ)

/-- Goes on by one step or one reply: the call that was made, if one was. -/
def Stage.go {σ α : Type} (ledger : Ledger σ) (world : World σ) :
    Stage σ α → Option Call × Stage σ α × World σ
  | ready (.done result) => (none, ready (.done result), world)
  | ready (.step step next) =>
      let started := world.start ledger step
      let resume := fun world =>
        let (reply, world) := started.finish world
        (next reply, world)
      (step.call?, waiting resume, started.state)
  | waiting resume =>
      let (rest, world) := resume world
      (none, ready rest, world)

namespace Hall

/-- What someone has to do with a session. -/
inductive Errand (σ : Type) where
  | submitting (stage : Stage σ (Except Fault Submission))
  /-- Holds a reference to a case and wants its receipt. -/
  | queued (number : Nat)
  /-- Has the case for itself and waits for it. -/
  | resolving (number : Nat) (stage : Stage σ (Except Fault FinalityRecord))
  | ended

/-- The case that an errand has for itself. -/
def Errand.case? {σ : Type} : Errand σ → Option Nat
  | resolving number _ => some number
  | _ => none

inductive Act (σ : Type) where
  | submit (word : Int32) (payload : Bytes) (options : SubmitOptions)
  /-- Someone wants the receipt of what stands under a handle. -/
  | call (word : Int32)
  /-- Someone wants the receipt of a case, to which it has had a reference before. -/
  | callBy (number : Nat)
  /-- An errand that is queued gets its case, unless another one has it. -/
  | grant (errand : Nat)
  | advance (errand : Nat)
  /-- A wait is broken off because its time is up, or because its case was cancelled. -/
  | interrupt (errand : Nat) (cancelled : Bool)
  /-- A request that takes no step, or a change of the ledger by itself. -/
  | request (request : Session.Request σ)

inductive Event where
  | quiet
  | called (errand : Nat) (call : Call)
  /-- No submission stands under the handle. -/
  | refused (e : Error)
  | answered (errand number : Nat) (answer : Except Fault Handle)

end Hall

/-- A session over any ledger under callers that come at the same time: each step of theirs is one act, and
the reply to it is another one. -/
abbrev Hall (σ : Type) := Desk σ (Hall.Errand σ)

namespace Hall

variable {σ : Type}

abbrev Turn (σ : Type) := Schedule.Turn (Hall σ) (Act σ) Event

/-- The cases that someone has for itself. -/
def occupied (hall : Hall σ) : List Nat :=
  hall.errands.filterMap Errand.case?

/-- Lets the program of an errand go on. -/
def go {α : Type} (ledger : Ledger σ) (hall : Hall σ) (index : Nat) (stage : Stage σ α)
    (goesOn : Stage σ α → Errand σ) : Event × Hall σ :=
  let (call, stage, world) := stage.go ledger hall.docket.world
  let event :=
    match call with
    | none => .quiet
    | some call => .called index call
  (event, (hall.withDocket { hall.docket with world }).put index (goesOn stage))

/-- Settles a case by the result of a wait for it. -/
def settle (hall : Hall σ) (index number : Nat) (result : Except Fault FinalityRecord) :
    Event × Hall σ :=
  let (answer, after) := Desk.settle hall index number result .ended
  (.answered index number answer, after)

/-- Lets an errand begin to wait for its case, or answers it at once. -/
def enter (ledger : Ledger σ) (hall : Hall σ) (index number : Nat) : Event × Hall σ :=
  match hall.docket.pending? number with
  | some submission =>
      let tracker := hall.docket.tracker
      let wait := (tracker.poll submission tracker.rounds tracker.freshBackoff).run
      (.quiet, hall.put index (.resolving number (.ready wait)))
  | none =>
      let (answer, _, docket) := hall.docket.resolve ledger number none
      (.answered index number answer, (hall.withDocket docket).put index .ended)

def grant (ledger : Ledger σ) (hall : Hall σ) (index : Nat) : Event × Hall σ :=
  match hall.errands[index]? with
  | some (.queued number) =>
      if number ∈ hall.occupied then (.quiet, hall) else hall.enter ledger index number
  | _ => (.quiet, hall)

def advance (ledger : Ledger σ) (hall : Hall σ) (index : Nat) : Event × Hall σ :=
  match hall.errands[index]? with
  | some (.submitting (.ready (.done (.ok submission)))) =>
      (.quiet, hall.file index submission fun _ => .ended)
  | some (.submitting stage) => hall.go ledger index stage .submitting
  | some (.resolving number (.ready (.done result))) => hall.settle index number result
  | some (.resolving number stage) => hall.go ledger index stage (.resolving number)
  | _ => (.quiet, hall)

/-- Breaks off the wait for a case: at any time if it is late, and once it is cancelled if that is why. -/
def breakOff (hall : Hall σ) (index number : Nat) (cancelled : Bool) : Event × Hall σ :=
  match cancelled, hall.docket.signalled number with
  | true, false => (.quiet, hall)
  | true, true => hall.settle index number (.error (.failure .cancelled))
  | false, _ => hall.settle index number (.error (.failure hall.docket.tracker.lateError))

def interrupt (hall : Hall σ) (index : Nat) (cancelled : Bool) : Event × Hall σ :=
  match hall.errands[index]? with
  | some (.resolving _ (.ready (.done _))) => (.quiet, hall)
  | some (.resolving number _) => hall.breakOff index number cancelled
  | _ => (.quiet, hall)

/-- Answers a request that takes no step, or changes the ledger by itself; the others have acts of their
own. -/
def request (ledger : Ledger σ) (hall : Hall σ) : Session.Request σ → Hall σ
  | .ledger change => { hall with session := hall.session.withState (change hall.session.state) }
  | request => Desk.request ledger hall request

def act (ledger : Ledger σ) (hall : Hall σ) : Act σ → Event × Hall σ
  | .submit word payload options =>
      match hall.session.registry.signer (.ofWord word) with
      | .error _ => (.quiet, hall)
      | .ok signer =>
          let task := hall.docket.tracker.submit signer payload options
          (.quiet, hall.add (.submitting (.ready task.run)))
  | .call word =>
      match hall.session.registry.submission (.ofWord word) with
      | .error e => (.refused e, hall)
      | .ok number => (.quiet, hall.add (.queued number))
  | .callBy number => (.quiet, hall.add (.queued number))
  | .grant index => hall.grant ledger index
  | .advance index => hall.advance ledger index
  | .interrupt index cancelled => hall.interrupt index cancelled
  | .request request => (.quiet, hall.request ledger request)

def run (ledger : Ledger σ) (hall : Hall σ) (acts : List (Act σ)) : List (Turn σ) × Hall σ :=
  Schedule.run (act ledger) hall acts

/-- A session as it begins, with nobody there yet. -/
def opened (endpoint : String) (tracker : Tracker) (capacity : Nat) (state : σ) : Hall σ :=
  ⟨.opened endpoint tracker capacity state, []⟩

/-! A call for a receipt that nobody disturbs. -/

open Schedule (Leads)

variable {ledger : Ledger σ} {after : Hall σ} {event : Event} {session : Session σ}
  {number deadline : Nat}

/-- The only caller of a session, which has its answer, after a wait that ended in this way. -/
def waited (session : Session σ) (number : Nat) (ended : Ended (Except Fault FinalityRecord)) :
    Event × Hall σ :=
  settle ⟨session, [.ended]⟩ 0 number (session.docket.tracker.concluded ended)

theorem resolving_leads (program : Program (Except Fault FinalityRecord)) (now : Nat)
    (world : World σ) :
    let ran := program.run ledger ⟨some deadline, none⟩ now world
    let after := waited (session.onWorld ran.2.2) number ran.1
    Leads (act ledger) ⟨session.onWorld world, [.resolving number (.ready program)]⟩ after.1
      after.2 := by
  intro ran after
  refine Program.run_backwards
    (fun program world => Leads (act ledger)
      ⟨session.onWorld world, [.resolving number (.ready program)]⟩ after.1 after.2)
    (fun ended world => waited (session.onWorld world) number ended = after)
    (fun result world same => .single (.advance 0) same) ?_ ?_ program now world rfl
  · exact fun step next world goesOn => .act (.advance 0) (.act (.advance 0) goesOn)
  · intro step next world wake ended instant waits due broken
    obtain rfl := Limits.interrupt_uncancelled_some due
    exact .act (.advance 0) (.single (.interrupt 0 false) broken)

/-- What a session does to find the receipt of a submission is a schedule of the hall in which nothing
else happens. -/
theorem transactionReceipt_leads {word : Int32}
    (named : session.registry.submission (.ofWord word) = .ok number) :
    Leads (act ledger) ⟨session, []⟩
      (.answered 0 number (session.transactionReceipt ledger (.ofWord word) none).1)
      ⟨(session.transactionReceipt ledger (.ofWord word) none).2, [.ended]⟩ := by
  have called : (act ledger ⟨session, []⟩ (.call word)).2 = ⟨session, [.queued number]⟩ := by
    simp only [act, named]
    rfl
  have granted : act ledger ⟨session, [.queued number]⟩ (.grant 0) =
      enter ledger ⟨session, [.queued number]⟩ 0 number := rfl
  refine .act (.call word) ?_
  rw [called]
  simp only [Session.transactionReceipt, named]
  cases pending : session.docket.pending? number with
  | none =>
      refine .single (.grant 0) ?_
      rw [granted]
      simp only [enter, Desk.docket, pending]
      rfl
  | some submission =>
      refine .act (.grant 0) ?_
      rw [granted, Docket.resolve_of_pending pending, Tracker.wait_eq]
      simp only [enter, Desk.docket, pending]
      exact resolving_leads _ 0 session.docket.world

/-! A submission that nobody disturbs. -/

section

variable {hall : Hall σ} {index : Nat}

theorem run_append (ledger : Ledger σ) (hall : Hall σ) (first second : List (Act σ)) :
    hall.run ledger (first ++ second) =
      ((hall.run ledger first).1 ++ (Hall.run ledger (hall.run ledger first).2 second).1,
        (Hall.run ledger (hall.run ledger first).2 second).2) :=
  Schedule.run_append (act ledger) hall first second

/-- A submission takes a step, and then the reply to it. -/
theorem advance_served {step : Step} {next : step.Reply → Program (Except Fault Submission)}
    {reply : step.Reply} {after : World σ}
    (here : hall.errands[index]? = some (.submitting (.ready (.step step next))))
    (served : hall.docket.world.serve ledger step = (reply, after)) :
    (act ledger (act ledger hall (.advance index)).2 (.advance index)).2 =
      (hall.withDocket { hall.docket with world := after }).put index
        (.submitting (.ready (next reply))) := by
  let started := hall.docket.world.start ledger step
  let resume : World σ → Program (Except Fault Submission) × World σ := fun world =>
    (next (started.finish world).1, (started.finish world).2)
  let begun : Hall σ := (hall.withDocket { hall.docket with world := started.state }).put index
    (.submitting (.waiting resume))
  have asked : (act ledger hall (.advance index)).2 = begun := by
    simp only [act, advance, here]
    rfl
  have waits : begun.errands[index]? = some (.submitting (.waiting resume)) :=
    List.getElem?_set_self (List.getElem?_eq_some_iff.mp here).1
  have resumed : resume begun.docket.world = (next reply, after) :=
    congrArg (fun reply => (next reply.1, reply.2)) served
  rw [asked]
  simp only [act, advance, waits, go, Stage.go, resumed]
  exact congrArg (Desk.mk _) (List.set_set ..)

/-- A submission that the world serves takes two acts for each of its steps. -/
theorem run_takes {program last : Program (Except Fault Submission)} {exchanges : List Exchange}
    {after : World σ} (takes : program.Takes exchanges last)
    (serves : hall.docket.world.Serves ledger exchanges after)
    (here : hall.errands[index]? = some (.submitting (.ready program))) :
    (hall.run ledger (List.replicate (2 * exchanges.length) (.advance index))).2 =
      (hall.withDocket { hall.docket with world := after }).put index (.submitting (.ready last)) := by
  induction takes generalizing hall with
  | nothing program =>
      cases serves
      have same : hall.errands.set index (.submitting (.ready program)) = hall.errands := by
        obtain ⟨inRange, found⟩ := List.getElem?_eq_some_iff.mp here
        rw [← found, List.set_getElem_self]
      exact congrArg (Desk.mk hall.session) same.symm
  | @step step next reply rest last later ih =>
      cases serves with
      | @step _ middle _ _ _ served goesOn =>
          have inRange := (List.getElem?_eq_some_iff.mp here).1
          let told : Hall σ := (hall.withDocket { hall.docket with world := middle }).put index
            (.submitting (.ready (next reply)))
          have first := congrArg
            (fun hall => (Hall.run ledger hall (List.replicate (2 * rest.length) (.advance index))).2)
            (advance_served here served)
          have others := @ih told goesOn (List.getElem?_set_self inRange)
          exact (first.trans others).trans (congrArg (Desk.mk _) (List.set_set ..))

end

end Hall

end Notary
