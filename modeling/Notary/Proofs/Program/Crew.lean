import Mathlib.Logic.Function.Basic
import Notary.Proofs.Program.Discipline

namespace Notary

/-!
Programs beside each other on one world. A schedule names the program that takes the next step, so
the runs of all schedules are all the orders in which the single steps can come.
-/

variable {σ α τ : Type}

/-- A step that is served at one go. -/
def World.serve (ledger : Ledger σ) (world : World σ) (step : Step) : step.Reply × World σ :=
  let started := world.start ledger step
  started.finish started.state

structure Crew (σ α : Type) where
  world : World σ
  threads : List (Program α)

namespace Crew

/-- A step that a thread took, and what it was answered with. -/
structure Turn where
  thread : Nat
  step : Step
  reply : step.Reply

/-- Lets a thread take its next step, if it has one. -/
def turn (ledger : Ledger σ) (crew : Crew σ α) (thread : Nat) : Option (Turn × Crew σ α) :=
  match crew.threads[thread]? with
  | some (.step step next) =>
      let (reply, world) := crew.world.serve ledger step
      some (⟨thread, step, reply⟩, ⟨world, crew.threads.set thread (next reply)⟩)
  | _ => none

/-- The turns of a schedule, and the crew they leave. A thread that is over has no turn. -/
def play (ledger : Ledger σ) (crew : Crew σ α) : List Nat → List Turn × Crew σ α
  | [] => ([], crew)
  | thread :: rest =>
      match crew.turn ledger thread with
      | none => play ledger crew rest
      | some (turn, after) =>
          let (turns, last) := play ledger after rest
          (turn :: turns, last)

variable {ledger : Ledger σ} {crew after : Crew σ α} {thread : Nat} {turn : Turn}

theorem turn_eq_some (taken : crew.turn ledger thread = some (turn, after)) :
    turn.thread = thread ∧ crew.world.serve ledger turn.step = (turn.reply, after.world) ∧
      ∃ next, crew.threads[thread]? = some (.step turn.step next) ∧
        after.threads = crew.threads.set thread (next turn.reply) := by
  unfold Crew.turn at taken
  split at taken
  · next step next found =>
      simp only [Option.some.injEq, Prod.mk.injEq] at taken
      obtain ⟨rfl, rfl⟩ := taken
      exact ⟨rfl, rfl, next, found, rfl⟩
  · cases taken

/-- Only the threads of the crew have turns. -/
theorem thread_lt_of_mem_play {schedule : List Nat} (member : turn ∈ (crew.play ledger schedule).1) :
    turn.thread < crew.threads.length := by
  induction schedule generalizing crew with
  | nil => exact nomatch member
  | cons thread rest ih =>
      unfold Crew.play at member
      cases taken : crew.turn ledger thread with
      | none =>
          rw [taken] at member
          exact ih member
      | some result =>
          obtain ⟨first, after⟩ := result
          rw [taken] at member
          obtain ⟨rfl, -, next, found, threads⟩ := turn_eq_some taken
          obtain rfl | later := List.mem_cons.mp member
          · exact (List.getElem?_eq_some_iff.mp found).1
          · have bound := ih later
            rwa [threads, List.length_set] at bound

/-- Every turn was served by a world. -/
theorem served_of_mem_play {schedule : List Nat} (member : turn ∈ (crew.play ledger schedule).1) :
    ∃ world after, World.serve ledger world turn.step = (turn.reply, after) := by
  induction schedule generalizing crew with
  | nil => exact nomatch member
  | cons thread rest ih =>
      unfold Crew.play at member
      cases taken : crew.turn ledger thread with
      | none =>
          rw [taken] at member
          exact ih member
      | some result =>
          rw [taken] at member
          obtain rfl | later := List.mem_cons.mp member
          · exact ⟨_, _, (turn_eq_some taken).2.1⟩
          · exact ih later

theorem length_play (ledger : Ledger σ) (crew : Crew σ α) (schedule : List Nat) :
    (crew.play ledger schedule).2.threads.length = crew.threads.length := by
  induction schedule generalizing crew with
  | nil => rfl
  | cons thread rest ih =>
      unfold Crew.play
      cases taken : crew.turn ledger thread with
      | none => exact ih crew
      | some result =>
          obtain ⟨turn, after⟩ := result
          obtain ⟨-, -, next, -, threads⟩ := turn_eq_some taken
          have later := ih after
          rw [threads, List.length_set] at later
          exact later

/-- A program that runs alone takes its steps in the order of a schedule. -/
theorem play_alone (ledger : Ledger σ) (program : Program α) (now : Nat) (world : World σ) :
    ∃ schedule, (Crew.play ledger ⟨world, [program]⟩ schedule).2 =
      ⟨(program.runAll ledger now world).2.2, [.done (program.runAll ledger now world).1]⟩ := by
  induction program generalizing now world with
  | done result => exact ⟨[], rfl⟩
  | step step next ih =>
      obtain ⟨schedule, played⟩ := ih (world.serve ledger step).1
        (now + (world.start ledger step).delay) (world.serve ledger step).2
      exact ⟨0 :: schedule, played⟩

/-! Threads that keep disciplines. -/

/-- Every thread keeps its discipline from the phase that it is in. -/
def Disciplined (disciplines : Nat → Discipline τ) (post : Nat → τ → α → Prop) (phases : Nat → τ)
    (threads : List (Program α)) : Prop :=
  ∀ thread (program : Program α), threads[thread]? = some program →
    program.Keeps (disciplines thread) (post thread) (phases thread)

def moved (disciplines : Nat → Discipline τ) (phases : Nat → τ) (turn : Turn) : Nat → τ :=
  Function.update phases turn.thread
    ((disciplines turn.thread).after (phases turn.thread) turn.step turn.reply)

variable {disciplines : Nat → Discipline τ} {post : Nat → τ → α → Prop} {phases : Nat → τ}

@[simp] theorem moved_self :
    moved disciplines phases turn turn.thread =
      (disciplines turn.thread).after (phases turn.thread) turn.step turn.reply :=
  Function.update_self ..

theorem moved_of_ne (other : thread ≠ turn.thread) :
    moved disciplines phases turn thread = phases thread :=
  Function.update_of_ne other ..

theorem Disciplined.moves (disciplined : Disciplined disciplines post phases crew.threads)
    (taken : crew.turn ledger thread = some (turn, after)) :
    (disciplines turn.thread).allows (phases turn.thread) turn.step ∧
      Disciplined disciplines post (moved disciplines phases turn) after.threads := by
  obtain ⟨rfl, -, next, found, threads⟩ := turn_eq_some taken
  have kept := disciplined _ _ found
  refine ⟨kept.1, fun other program here => ?_⟩
  rw [threads] at here
  by_cases same : other = turn.thread
  · subst same
    have inRange := (List.getElem?_eq_some_iff.mp found).1
    rw [List.getElem?_set_self inRange] at here
    cases here
    simpa using kept.2 turn.reply
  · rw [List.getElem?_set_ne (Ne.symm same)] at here
    rw [moved_of_ne same]
    exact disciplined other program here

/-- What every allowed step keeps, every run of disciplined threads keeps. -/
theorem Disciplined.play (ledger : Ledger σ) (invariant : List Turn → World σ → (Nat → τ) → Prop)
    (keeps : ∀ {history world phases} {turn : Turn} {after : World σ},
      invariant history world phases →
      (disciplines turn.thread).allows (phases turn.thread) turn.step →
      world.serve ledger turn.step = (turn.reply, after) →
      invariant (history ++ [turn]) after (moved disciplines phases turn))
    {history : List Turn} (schedule : List Nat)
    (disciplined : Disciplined disciplines post phases crew.threads)
    (holds : invariant history crew.world phases) :
    ∃ last, invariant (history ++ (crew.play ledger schedule).1)
        (crew.play ledger schedule).2.world last ∧
      Disciplined disciplines post last (crew.play ledger schedule).2.threads := by
  induction schedule generalizing crew history phases with
  | nil => exact ⟨phases, by simpa [Crew.play] using holds, disciplined⟩
  | cons thread rest ih =>
      unfold Crew.play
      cases taken : crew.turn ledger thread with
      | none => exact ih disciplined holds
      | some result =>
          obtain ⟨turn, after⟩ := result
          obtain ⟨allowed, disciplined⟩ := disciplined.moves taken
          have served := (turn_eq_some taken).2.1
          simpa using ih disciplined (keeps holds allowed served)

end Crew

end Notary
