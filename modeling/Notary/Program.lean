import Notary.Ledger.Call
import Notary.Metrics
import Notary.NonceBook

namespace Notary

/-!
Programs: work laid out as a tree of steps, each of which waits for its reply. A program can be run
alone, under a deadline and a cancel signal, or step by step beside others. Time is counted in
milliseconds and passes only while a program waits.
-/

inductive Step where
  | ask (call : Call)
  | reserve (account : Address) (floor : Nat)
  | release (account : Address) (nonce : Nat)
  | pause (ms : Nat)
  /-- Draws a number up to the given one by chance. -/
  | draw (most : Nat)
  /-- Counts an event. -/
  | note (metric : Metric)
  deriving DecidableEq, Repr

def Step.Reply : Step → Type
  | ask call => call.Reply
  | reserve _ _ => Except Fault Nat
  | release _ _ => Except Fault Bool
  | pause _ => Unit
  | draw most => Fin (most + 1)
  | note _ => Unit

inductive Program (α : Type) where
  | done (result : α)
  | step (step : Step) (next : step.Reply → Program α)

namespace Program

variable {α β : Type}

def bind : Program α → (α → Program β) → Program β
  | done result, f => f result
  | step s next, f => step s fun reply => (next reply).bind f

instance : Monad Program where
  pure := done
  bind := bind

instance [Inhabited α] : Inhabited (Program α) := ⟨done default⟩

def perform (s : Step) : Program s.Reply :=
  step s done

end Program

abbrev Task := ExceptT Fault Program

namespace Task

variable {α : Type}

def ask (call : Call) : Task call.Answer :=
  ExceptT.mk (Program.perform (.ask call))

def reserve (account : Address) (floor : Nat) : Task Nat :=
  ExceptT.mk (Program.perform (.reserve account floor))

def release (account : Address) (nonce : Nat) : Task Bool :=
  ExceptT.mk (Program.perform (.release account nonce))

def pause (ms : Nat) : Task Unit :=
  ExceptT.mk (do Program.perform (.pause ms); pure (.ok ()))

def draw (most : Nat) : Task (Fin (most + 1)) :=
  ExceptT.mk (do return .ok (← Program.perform (.draw most)))

def note (metric : Metric) : Task Unit :=
  ExceptT.mk (do Program.perform (.note metric); pure (.ok ()))

def fail (e : Error) : Task α :=
  throw (.failure e)

def settled (result : Except Fault α) : Task α :=
  ExceptT.mk (pure result)

/-- A result without steps that is no breakdown. -/
def ofResult : Except Error α → Task α
  | .ok result => pure result
  | .error e => fail e

def attempt (task : Task α) : Task (Except Fault α) :=
  ExceptT.mk (do return .ok (← task.run))

/-- The task with its failures changed; a breakdown stays as it is. -/
def mapFailure (change : Error → Error) (task : Task α) : Task α := do
  match ← task.attempt with
  | .ok result => pure result
  | .error (.failure e) => fail (change e)
  | .error fault => throw fault

end Task

/-- What the steps of programs act on. -/
structure World (σ : Type) where
  ledger : σ
  book : NonceBook
  metrics : Metrics

namespace World

variable {σ : Type}

def start (ledger : Ledger σ) (world : World σ) : (step : Step) → Started (World σ) step.Reply
  | .ask call =>
      let started := ledger.start call world.ledger
      { state := { world with ledger := started.state }
        delay := started.delay
        finish := fun world =>
          let (reply, state) := started.finish world.ledger
          (reply, { world with ledger := state }) }
  | .reserve account floor =>
      .now world fun world =>
        let (reply, book) := world.book.reserve account floor
        (reply, { world with book })
  | .release account nonce =>
      .now world fun world =>
        let (reply, book) := world.book.release account nonce
        (reply, { world with book })
  | .pause ms => ⟨world, ms, fun world => ((), world)⟩
  | .draw most => .now world fun world => (ledger.chance world.ledger most, world)
  | .note metric =>
      .now world fun world => ((), { world with metrics := world.metrics.increment metric })

end World

/-- The instants at which a wait is broken off, if it lasts so long. -/
structure Limits where
  deadline : Option Nat := none
  cancelAt : Option Nat := none
  deriving DecidableEq, Repr

inductive Ended (α : Type) where
  | finished (result : α)
  | timedOut
  | cancelled

namespace Limits

/-- The deadline or the cancel signal, whichever breaks off a wait that would last until `wake`; the
deadline if both come at once. What is due at `wake` itself breaks off nothing. -/
def interrupt {α : Type} (limits : Limits) (wake : Nat) : Option (Ended α × Nat) :=
  let deadline := limits.deadline.filter (· < wake)
  let cancelAt := limits.cancelAt.filter (· < wake)
  match deadline, cancelAt with
  | none, none => none
  | some at_, none => some (.timedOut, at_)
  | none, some at_ => some (.cancelled, at_)
  | some due, some signal =>
      if due ≤ signal then some (.timedOut, due) else some (.cancelled, signal)

end Limits

namespace Program

variable {σ α : Type}

/-- Runs a program from the instant `now` within limits: how it ended, when, and what it left. -/
def run (ledger : Ledger σ) (limits : Limits) :
    Program α → (now : Nat) → World σ → Ended α × Nat × World σ
  | done result, now, world => (.finished result, now, world)
  | step s next, now, world =>
      let started := world.start ledger s
      let wake := now + started.delay
      let interrupt : Option (Ended α × Nat) :=
        if started.delay = 0 then none else limits.interrupt wake
      match interrupt with
      | some (ended, instant) => (ended, instant, started.state)
      | none =>
          let (reply, world) := started.finish started.state
          run ledger limits (next reply) wake world

def runAll (ledger : Ledger σ) : Program α → (now : Nat) → World σ → α × Nat × World σ
  | done result, now, world => (result, now, world)
  | step s next, now, world =>
      let started := world.start ledger s
      let (reply, world) := started.finish started.state
      runAll ledger (next reply) (now + started.delay) world

/-- A program that ended, or that waits until an instant. -/
inductive Thread (σ α : Type) where
  | ended (result : α)
  | waiting (wake : Nat) (resume : World σ → Program α × World σ)

/-- Runs a program as long as no time passes. -/
def advance (ledger : Ledger σ) (now : Nat) : Program α → World σ → Thread σ α × World σ
  | done result, world => (.ended result, world)
  | step s next, world =>
      let started := world.start ledger s
      if started.delay = 0 then
        let (reply, world) := started.finish started.state
        advance ledger now (next reply) world
      else
        (.waiting (now + started.delay) fun world =>
          let (reply, world) := started.finish world
          (next reply, world), started.state)

/-- How two programs that ran side by side ended. -/
inductive Joined (α : Type) where
  | both (first second : α)
  /-- One of them ended in a way that ends the other. -/
  | aborted (result : α)
  /-- The number of wakings did not suffice. -/
  | unfinished

def wake (ledger : Ledger σ) (now : Nat) (resume : World σ → Program α × World σ)
    (world : World σ) : Thread σ α × World σ :=
  let (program, world) := resume world
  advance ledger now program world

/-- Lets the thread that wakes first go on, the first one of two that wake at once. There is no turn
when both have ended. -/
def turn (ledger : Ledger σ) (first second : Thread σ α) (world : World σ) :
    Option (Nat × Thread σ α × Thread σ α × World σ) :=
  let wakeFirst (now : Nat) (resume : World σ → Program α × World σ) :=
    let (thread, world) := wake ledger now resume world
    some (now, thread, second, world)
  let wakeSecond (now : Nat) (resume : World σ → Program α × World σ) :=
    let (thread, world) := wake ledger now resume world
    some (now, first, thread, world)
  match first, second with
  | .ended _, .ended _ => none
  | .waiting now resume, .ended _ => wakeFirst now resume
  | .ended _, .waiting now resume => wakeSecond now resume
  | .waiting early resume, .waiting late resumeOther =>
      if early ≤ late then wakeFirst early resume else wakeSecond late resumeOther

/-- The result of a thread that ended in a way that ends the other. -/
def Thread.abort? (aborts : α → Bool) : Thread σ α → Option α
  | .ended result => if aborts result then some result else none
  | .waiting _ _ => none

/-- What two threads have come to, if they are over. -/
def joined? (aborts : α → Bool) (first second : Thread σ α) : Option (Joined α) :=
  match first.abort? aborts, second.abort? aborts, first, second with
  | some result, _, _, _ => some (.aborted result)
  | none, some result, _, _ => some (.aborted result)
  | none, none, .ended a, .ended b => some (.both a b)
  | none, none, _, _ => none

def joinThreads (ledger : Ledger σ) (aborts : α → Bool) :
    (wakings : Nat) → (now : Nat) → Thread σ α → Thread σ α → World σ → Joined α × Nat × World σ
  | wakings, now, first, second, world =>
      match joined? aborts first second, wakings with
      | some joined, _ => (joined, now, world)
      | none, 0 => (.unfinished, now, world)
      | none, wakings + 1 =>
          match turn ledger first second world with
          | none => (.unfinished, now, world)
          | some (now, first, second, world) =>
              joinThreads ledger aborts wakings now first second world

/-- Runs two programs side by side, the first one first whenever both can go on. -/
def join (ledger : Ledger σ) (aborts : α → Bool) (wakings : Nat) (first second : Program α)
    (world : World σ) : Joined α × Nat × World σ :=
  let (first, world) := advance ledger 0 first world
  match first.abort? aborts with
  | some result => (.aborted result, 0, world)
  | none =>
      let (second, world) := advance ledger 0 second world
      joinThreads ledger aborts wakings 0 first second world

end Program

end Notary
