import Notary.Proofs.Program.Crew
import Notary.Proofs.Program.Deadline

namespace Notary

/-!
What a program does if its steps are answered in a given way. A thread that takes its turns one after
the other on a world that answers in this way does the same.
-/

/-- A step, and what it is answered with. -/
structure Exchange where
  step : Step
  reply : step.Reply

def Exchange.turn (thread : Nat) (exchange : Exchange) : Crew.Turn :=
  ⟨thread, exchange.step, exchange.reply⟩

variable {σ α β : Type} {exchanges rest : List Exchange}

namespace Program

/-- The program begins with these steps if they are answered so, and goes on as the last program. -/
inductive Takes : Program α → List Exchange → Program α → Prop
  | nothing (program : Program α) : Takes program [] program
  | step {step : Step} {next : step.Reply → Program α} {reply : step.Reply}
      {exchanges : List Exchange} {last : Program α} (later : Takes (next reply) exchanges last) :
      Takes (.step step next) (⟨step, reply⟩ :: exchanges) last

theorem Takes.append {program middle last : Program α} (first : program.Takes exchanges middle)
    (second : middle.Takes rest last) : program.Takes (exchanges ++ rest) last := by
  induction first with
  | nothing => exact second
  | step _ ih => exact .step (ih second)

theorem Takes.split {program last : Program α} (takes : program.Takes (exchanges ++ rest) last) :
    ∃ middle, program.Takes exchanges middle ∧ middle.Takes rest last := by
  induction exchanges generalizing program with
  | nil => exact ⟨program, .nothing program, takes⟩
  | cons exchange others ih =>
      cases takes with
      | step later =>
          obtain ⟨middle, first, second⟩ := ih later
          exact ⟨middle, .step first, second⟩

theorem Takes.bind {program middle : Program α} (takes : program.Takes exchanges middle)
    (f : α → Program β) : (program >>= f).Takes exchanges (middle >>= f) := by
  induction takes with
  | nothing => exact .nothing _
  | step _ ih => exact .step ih

end Program

namespace Task

/-- The task takes these steps if they are answered so, and then ends. -/
def Takes (task : Task α) (exchanges : List Exchange) (outcome : Except Fault α) : Prop :=
  task.run.Takes exchanges (.done outcome)

variable {task : Task α} {result : α}

theorem takes_settled {outcome : Except Fault α} : (settled outcome).Takes [] outcome :=
  .nothing _

theorem takes_ask {call : Call} {reply : call.Reply} :
    (ask call).Takes [⟨.ask call, reply⟩] reply :=
  .step (.nothing _)

theorem takes_draw {most : Nat} {drawn : Fin (most + 1)} :
    (draw most).Takes [⟨.draw most, drawn⟩] (.ok drawn) :=
  .step (.nothing _)

theorem Takes.goesOn {f : α → Task β} {last : Program (Except Fault β)}
    (first : task.Takes exchanges (.ok result)) (second : (f result).run.Takes rest last) :
    (task >>= f).run.Takes (exchanges ++ rest) last :=
  (Program.Takes.bind first _).append second

theorem Takes.bind {f : α → Task β} {outcome : Except Fault β}
    (first : task.Takes exchanges (.ok result)) (second : (f result).Takes rest outcome) :
    (task >>= f).Takes (exchanges ++ rest) outcome :=
  first.goesOn second

theorem Takes.bind_error {f : α → Task β} {fault : Fault}
    (failed : task.Takes exchanges (.error fault)) : (task >>= f).Takes exchanges (.error fault) :=
  Program.Takes.bind failed _

theorem Takes.attempt {outcome : Except Fault α} (takes : task.Takes exchanges outcome) :
    task.attempt.Takes exchanges (.ok outcome) :=
  Program.Takes.bind takes _

theorem Takes.mapFailure (change : Error → Error) (takes : task.Takes exchanges (.ok result)) :
    (task.mapFailure change).Takes exchanges (.ok result) :=
  Program.Takes.bind takes.attempt _

end Task

namespace World

variable {ledger : Ledger σ} {world : World σ} {account : Address} {left : NonceBook}

theorem serve_reserve {floor : Nat} {reply : Except Fault Nat}
    (reserved : world.book.reserve account floor = (reply, left)) :
    world.serve ledger (.reserve account floor) = (reply, { world with book := left }) := by
  simp only [serve, start, Started.now, reserved]
  rfl

theorem serve_release {nonce : Nat} {reply : Except Fault Bool}
    (released : world.book.release account nonce = (reply, left)) :
    world.serve ledger (.release account nonce) = (reply, { world with book := left }) := by
  simp only [serve, start, Started.now, released]
  rfl

/-- A ledger that answers at once serves a call by its answer. -/
theorem serve_answer {answer : (call : Call) → σ → call.Reply × σ} {chance : Chance σ} {call : Call}
    {reply : call.Reply} {after : σ} (answered : answer call world.ledger = (reply, after)) :
    world.serve (.ofAnswers answer chance) (.ask call) = (reply, { world with ledger := after }) :=
  congrArg (fun told => (told.1, World.mk told.2 world.book world.metrics)) answered

/-- The world serves these steps one after the other with these replies. -/
inductive Serves (ledger : Ledger σ) : World σ → List Exchange → World σ → Prop
  | nothing (world : World σ) : Serves ledger world [] world
  | step {world middle after : World σ} {exchange : Exchange} {exchanges : List Exchange}
      (served : world.serve ledger exchange.step = (exchange.reply, middle))
      (later : Serves ledger middle exchanges after) :
      Serves ledger world (exchange :: exchanges) after

theorem Serves.append {middle after : World σ} (first : world.Serves ledger exchanges middle)
    (second : middle.Serves ledger rest after) : world.Serves ledger (exchanges ++ rest) after := by
  induction first with
  | nothing => exact second
  | step served _ ih => exact .step served (ih second)

end World

/-! A program that runs alone. -/

namespace Program

variable {τ : Type} {ledger : Ledger σ} {discipline : Discipline τ} {post : τ → α → Prop}
  {phase : τ} {world : World σ} {exchange : Exchange}

/-- The steps of a program that runs alone, with what the world answers them. -/
def transcript (ledger : Ledger σ) : Program α → World σ → List Exchange
  | done _, _ => []
  | step s next, world =>
      let (reply, after) := world.serve ledger s
      ⟨s, reply⟩ :: transcript ledger (next reply) after

/-- What a program takes and the world serves, it does when it runs alone. -/
theorem Takes.alone {program : Program α} {exchanges : List Exchange} {result : α} {after : World σ}
    (takes : program.Takes exchanges (.done result)) (serves : world.Serves ledger exchanges after)
    (now : Nat) :
    (program.runAll ledger now world).1 = result ∧ (program.runAll ledger now world).2.2 = after := by
  induction exchanges generalizing program now world with
  | nil =>
      cases takes
      cases serves
      exact ⟨rfl, rfl⟩
  | cons exchange rest ih =>
      cases takes with
      | @step step next reply _ _ later =>
          cases serves with
          | step served goesOn =>
              have told : (world.start ledger step).finish (world.start ledger step).state =
                  (reply, _) := served
              simp only [runAll, told]
              exact ih later goesOn _

theorem served_of_mem_transcript {program : Program α}
    (member : exchange ∈ program.transcript ledger world) :
    ∃ before after, World.serve ledger before exchange.step = (exchange.reply, after) := by
  induction program generalizing world with
  | done result => exact absurd member List.not_mem_nil
  | step s next ih =>
      obtain rfl | later := List.mem_cons.mp member
      · exact ⟨world, _, rfl⟩
      · exact ih _ later

/-- What every allowed step keeps, the run of a program alone keeps. -/
theorem Keeps.alone {program : Program α} (kept : program.Keeps discipline post phase)
    (ledger : Ledger σ) (invariant : List Exchange → World σ → τ → Prop)
    (keeps : ∀ {history world phase} {exchange : Exchange} {after : World σ},
      invariant history world phase → discipline.allows phase exchange.step →
      world.serve ledger exchange.step = (exchange.reply, after) →
      invariant (history ++ [exchange]) after (discipline.after phase exchange.step exchange.reply))
    {history : List Exchange} (now : Nat) (holds : invariant history world phase) :
    ∃ last, invariant (history ++ program.transcript ledger world)
        (program.runAll ledger now world).2.2 last ∧
      post last (program.runAll ledger now world).1 := by
  induction program generalizing history now world phase with
  | done result =>
      refine ⟨phase, ?_, kept⟩
      rw [transcript, List.append_nil]
      exact holds
  | step s next ih =>
      have moved := @keeps history world phase ⟨s, (world.serve ledger s).1⟩ _ holds kept.1 rfl
      have later := ih (world.serve ledger s).1 (kept.2 _) (now + (world.start ledger s).delay) moved
      rw [List.append_assoc] at later
      exact later

end Program

/-! A program that runs until a deadline. -/

/-- The ledger takes no time to answer. -/
def Ledger.Prompt (ledger : Ledger σ) : Prop :=
  ∀ call state, (ledger.start call state).delay = 0

def Exchange.duration : Exchange → Nat
  | ⟨.pause ms, _⟩ => ms
  | _ => 0

def Exchange.total : List Exchange → Nat
  | [] => 0
  | exchange :: rest => exchange.duration + total rest

theorem Exchange.total_append (first second : List Exchange) :
    total (first ++ second) = total first + total second := by
  induction first with
  | nil => exact (Nat.zero_add _).symm
  | cons exchange first ih => rw [List.cons_append, total, total, ih, Nat.add_assoc]

theorem World.delay_eq {ledger : Ledger σ} (prompt : ledger.Prompt) (world : World σ)
    (exchange : Exchange) : (world.start ledger exchange.step).delay = exchange.duration := by
  obtain ⟨step, reply⟩ := exchange
  cases step with
  | ask call => exact prompt call world.ledger
  | reserve | release | pause | draw | note => rfl

namespace Program

variable {ledger : Ledger σ} {deadline now : Nat} {world after : World σ} {program last : Program α}

section Served

variable {exchange : Exchange} {next : exchange.step.Reply → Program α} {middle : World σ}

theorem run_served (prompt : ledger.Prompt)
    (served : world.serve ledger exchange.step = (exchange.reply, middle)) (begun : now ≤ deadline)
    (timely : now + exchange.duration ≤ deadline) :
    run ledger ⟨some deadline, none⟩ (.step exchange.step next) now world =
        run ledger ⟨some deadline, none⟩ (next exchange.reply) (now + exchange.duration) middle ∧
      stepsWithin ledger ⟨some deadline, none⟩ (.step exchange.step next) now world =
        exchange.step :: stepsWithin ledger ⟨some deadline, none⟩ (next exchange.reply)
          (now + exchange.duration) middle := by
  have told : ((world.start ledger exchange.step).finish (world.start ledger exchange.step).state) =
      (exchange.reply, middle) := served
  rw [← World.delay_eq prompt world] at timely ⊢
  rw [run_timely begun timely, stepsWithin_timely begun timely, told]
  exact ⟨rfl, rfl⟩

theorem duration_timely (prompt : ledger.Prompt) (begun : now ≤ deadline)
    (untimed : (run ledger ⟨some deadline, none⟩ (.step exchange.step next) now world).1 ≠
      .timedOut) : now + exchange.duration ≤ deadline := by
  rw [← World.delay_eq prompt world]
  by_contra late
  rw [run_late begun (Nat.not_le.mp late)] at untimed
  exact untimed rfl

end Served

/-- What a program takes and the world serves, it does within a deadline that leaves it the time. -/
theorem Takes.within (prompt : ledger.Prompt) (takes : program.Takes exchanges last)
    (serves : world.Serves ledger exchanges after)
    (timely : now + Exchange.total exchanges ≤ deadline) :
    program.run ledger ⟨some deadline, none⟩ now world =
        last.run ledger ⟨some deadline, none⟩ (now + Exchange.total exchanges) after ∧
      program.stepsWithin ledger ⟨some deadline, none⟩ now world =
        exchanges.map (·.step) ++
          last.stepsWithin ledger ⟨some deadline, none⟩ (now + Exchange.total exchanges) after := by
  induction takes generalizing now world with
  | nothing program =>
      cases serves
      exact ⟨rfl, rfl⟩
  | @step step next reply exchanges last later ih =>
      cases serves with
      | step served goesOn =>
          rw [Exchange.total, ← Nat.add_assoc] at timely ⊢
          have due : now + Exchange.duration ⟨step, reply⟩ ≤ deadline := by omega
          obtain ⟨ran, steps⟩ := @run_served _ _ _ _ _ _ ⟨step, reply⟩ next _ prompt served
            (Nat.le_of_add_right_le due) due
          obtain ⟨ranOn, stepsOn⟩ := ih goesOn timely
          exact ⟨ran.trans ranOn, steps.trans (congrArg (step :: ·) stepsOn)⟩

/-- A run that is not broken off has had the time for what it did. -/
theorem Takes.timely (prompt : ledger.Prompt) (takes : program.Takes exchanges last)
    (serves : world.Serves ledger exchanges after) (begun : now ≤ deadline)
    (untimed : (program.run ledger ⟨some deadline, none⟩ now world).1 ≠ .timedOut) :
    now + Exchange.total exchanges ≤ deadline := by
  induction takes generalizing now world with
  | nothing program => exact begun
  | @step step next reply exchanges last later ih =>
      cases serves with
      | step served goesOn =>
          have due := @duration_timely _ _ _ _ _ _ ⟨step, reply⟩ next prompt begun untimed
          have ran := (@run_served _ _ _ _ _ _ ⟨step, reply⟩ next _ prompt served begun due).1
          rw [ran] at untimed
          rw [Exchange.total, ← Nat.add_assoc]
          exact ih goesOn due untimed

end Program

namespace Crew

variable {ledger : Ledger σ} {crew : Crew σ α} {thread : Nat}

/-- A thread that has its turns one after the other. -/
theorem play_takes {program last : Program α} {after : World σ}
    (takes : program.Takes exchanges last) (serves : crew.world.Serves ledger exchanges after)
    (found : crew.threads[thread]? = some program) (schedule : List Nat) :
    crew.play ledger (List.replicate exchanges.length thread ++ schedule) =
      (exchanges.map (Exchange.turn thread) ++
          (play ledger ⟨after, crew.threads.set thread last⟩ schedule).1,
        (play ledger ⟨after, crew.threads.set thread last⟩ schedule).2) := by
  induction takes generalizing crew with
  | nothing program =>
      cases serves
      have same : crew.threads.set thread program = crew.threads := by
        obtain ⟨inRange, here⟩ := List.getElem?_eq_some_iff.mp found
        rw [← here, List.set_getElem_self]
      rw [same]
      rfl
  | step later ih =>
      cases serves with
      | @step _ middle _ _ _ served goesOn =>
          obtain ⟨inRange, -⟩ := List.getElem?_eq_some_iff.mp found
          have played := @ih ⟨middle, crew.threads.set thread _⟩ goesOn
            (List.getElem?_set_self inRange)
          rw [List.set_set] at played
          simp only [List.length_cons, List.replicate_succ, List.cons_append, play, turn, found,
            served, played]
          rfl

end Crew

end Notary
