import Notary.Program

namespace Notary

/-!
Programs that run within limits. What breaks off a run does not depend on what was to follow, and a run
that finishes has done so by its deadline.
-/

variable {σ α β : Type} {ledger : Ledger σ} {limits : Limits} {now instant deadline wake : Nat}
  {world after : World σ}

theorem Limits.interrupt_cases (α β : Type) (limits : Limits) (wake : Nat) :
    (limits.interrupt wake : Option (Ended α × Nat)) = none ∧
      (limits.interrupt wake : Option (Ended β × Nat)) = none ∨
    (∃ instant, (limits.interrupt wake : Option (Ended α × Nat)) = some (.timedOut, instant) ∧
      (limits.interrupt wake : Option (Ended β × Nat)) = some (.timedOut, instant)) ∨
    ∃ instant, (limits.interrupt wake : Option (Ended α × Nat)) = some (.cancelled, instant) ∧
      (limits.interrupt wake : Option (Ended β × Nat)) = some (.cancelled, instant) := by
  unfold interrupt
  cases limits.deadline.filter (· < wake) with
  | none =>
      cases limits.cancelAt.filter (· < wake) with
      | none => exact .inl ⟨rfl, rfl⟩
      | some signal => exact .inr (.inr ⟨signal, rfl, rfl⟩)
  | some due =>
      cases limits.cancelAt.filter (· < wake) with
      | none => exact .inr (.inl ⟨due, rfl, rfl⟩)
      | some signal =>
          by_cases first : due ≤ signal
          · exact .inr (.inl ⟨due, if_pos first, if_pos first⟩)
          · exact .inr (.inr ⟨signal, if_neg first, if_neg first⟩)

/-- A wait that is not broken off ends by the deadline. -/
theorem Limits.le_of_interrupt (limited : limits.deadline = some deadline)
    (unbroken : (limits.interrupt wake : Option (Ended α × Nat)) = none) : wake ≤ deadline := by
  by_cases late : deadline < wake
  · have passed : limits.deadline.filter (· < wake) = some deadline := by simp [limited, late]
    rw [interrupt, passed] at unbroken
    cases cancel : limits.cancelAt.filter (· < wake) with
    | none => simp [cancel] at unbroken
    | some signal =>
        simp only [cancel] at unbroken
        split at unbroken <;> cases unbroken
  · omega

theorem Limits.interrupt_some {ended : Ended α}
    (interrupted : limits.interrupt wake = some (ended, instant)) :
    ended = .timedOut ∨ ended = .cancelled := by
  obtain ⟨unbroken, -⟩ | ⟨_, broken, -⟩ | ⟨_, broken, -⟩ := limits.interrupt_cases α α wake
  · cases unbroken.symm.trans interrupted
  · cases broken.symm.trans interrupted
    exact .inl rfl
  · cases broken.symm.trans interrupted
    exact .inr rfl

theorem Limits.interrupt_uncancelled_some {ended : Ended α} {deadline : Option Nat}
    (interrupted : (⟨deadline, none⟩ : Limits).interrupt wake = some (ended, instant)) :
    ended = .timedOut := by
  unfold interrupt at interrupted
  cases due : deadline.filter (· < wake) with
  | none => simp [due] at interrupted
  | some at_ =>
      simp only [due, Option.filter_none, Option.some.injEq, Prod.mk.injEq] at interrupted
      exact interrupted.1.symm

/-- Without a cancel signal, what breaks off a wait is the deadline. -/
theorem Limits.interrupt_uncancelled (begun : now ≤ deadline) (delay : Nat) :
    (if delay = 0 then none else (⟨some deadline, none⟩ : Limits).interrupt (now + delay)) =
      if deadline < now + delay then some (.timedOut, deadline) else (none : Option (Ended α × Nat)) := by
  by_cases late : deadline < now + delay
  · have passed : (some deadline).filter (· < now + delay) = some deadline := by simp [late]
    rw [if_neg (by omega), if_pos late, interrupt, passed]
    rfl
  · have ahead : (some deadline).filter (· < now + delay) = none := by
      simpa using late
    rw [if_neg late, interrupt, ahead]
    exact ite_self _

namespace Program

/-- What goes back from each point of a run to the one before it, and holds of how the run ends, holds of
where it begins. -/
theorem run_backwards (holds : Program α → World σ → Prop) (atEnd : Ended α → World σ → Prop)
    (ends : ∀ result world, atEnd (.finished result) world → holds (done result) world)
    (serves : ∀ s next world,
      holds (next ((world.start ledger s).finish (world.start ledger s).state).1)
        ((world.start ledger s).finish (world.start ledger s).state).2 → holds (step s next) world)
    (breaks : ∀ s next world wake ended instant, (world.start ledger s).delay ≠ 0 →
      limits.interrupt wake = some (ended, instant) → atEnd ended (world.start ledger s).state →
      holds (step s next) world)
    (program : Program α) (now : Nat) (world : World σ)
    (ran : atEnd (run ledger limits program now world).1 (run ledger limits program now world).2.2) :
    holds program world := by
  induction program generalizing now world with
  | done result => exact ends result world ran
  | step s next ih =>
      let started := world.start ledger s
      let wake := now + started.delay
      cases interrupted : (if started.delay = 0 then none else limits.interrupt wake :
          Option (Ended α × Nat)) with
      | none =>
          simp only [run, started, wake, interrupted] at ran
          exact serves s next world (ih _ wake _ ran)
      | some broken =>
          obtain ⟨ended, instant⟩ := broken
          simp only [run, started, wake, interrupted] at ran
          obtain ⟨waits, due⟩ := Option.ite_none_left_eq_some.mp interrupted
          exact breaks s next world wake ended instant waits due ran

/-- The steps of a run within limits, with the one at which it was broken off. -/
def stepsWithin (ledger : Ledger σ) (limits : Limits) : Program α → (now : Nat) → World σ → List Step
  | done _, _, _ => []
  | step s next, now, world =>
      let started := world.start ledger s
      let wake := now + started.delay
      let interrupt : Option (Ended α × Nat) :=
        if started.delay = 0 then none else limits.interrupt wake
      match interrupt with
      | some _ => [s]
      | none =>
          let (reply, after) := started.finish started.state
          s :: stepsWithin ledger limits (next reply) wake after

section Uncancelled

variable {s : Step} {next : s.Reply → Program α}

theorem run_late (begun : now ≤ deadline) (late : deadline < now + (world.start ledger s).delay) :
    run ledger ⟨some deadline, none⟩ (step s next) now world =
      (.timedOut, deadline, (world.start ledger s).state) := by
  simp only [run, Limits.interrupt_uncancelled begun, if_pos late]

theorem run_timely (begun : now ≤ deadline)
    (timely : now + (world.start ledger s).delay ≤ deadline) :
    run ledger ⟨some deadline, none⟩ (step s next) now world =
      run ledger ⟨some deadline, none⟩
        (next ((world.start ledger s).finish (world.start ledger s).state).1)
        (now + (world.start ledger s).delay)
        ((world.start ledger s).finish (world.start ledger s).state).2 := by
  simp only [run, Limits.interrupt_uncancelled begun, if_neg (Nat.not_lt.mpr timely)]

theorem stepsWithin_timely (begun : now ≤ deadline)
    (timely : now + (world.start ledger s).delay ≤ deadline) :
    stepsWithin ledger ⟨some deadline, none⟩ (step s next) now world =
      s :: stepsWithin ledger ⟨some deadline, none⟩
        (next ((world.start ledger s).finish (world.start ledger s).state).1)
        (now + (world.start ledger s).delay)
        ((world.start ledger s).finish (world.start ledger s).state).2 := by
  simp only [stepsWithin, Limits.interrupt_uncancelled begun, if_neg (Nat.not_lt.mpr timely)]

end Uncancelled

/-- A run that is broken off stays so, whatever was to follow. -/
def carryOn (ledger : Ledger σ) (limits : Limits) (f : α → Program β) :
    Ended α × Nat × World σ → Ended β × Nat × World σ
  | (.finished result, now, world) => run ledger limits (f result) now world
  | (.timedOut, now, world) => (.timedOut, now, world)
  | (.cancelled, now, world) => (.cancelled, now, world)

theorem run_bind (program : Program α) (f : α → Program β) (now : Nat) (world : World σ) :
    run ledger limits (program.bind f) now world =
      carryOn ledger limits f (run ledger limits program now world) := by
  induction program generalizing now world with
  | done result => rfl
  | step s next ih =>
      simp only [bind, run]
      by_cases prompt : (world.start ledger s).delay = 0
      · simp only [prompt, if_true]
        exact ih _ _ _
      · simp only [prompt, if_false]
        obtain ⟨left, right⟩ | ⟨instant, left, right⟩ | ⟨instant, left, right⟩ :=
          limits.interrupt_cases α β (now + (world.start ledger s).delay)
        · rw [left, right]
          exact ih _ _ _
        · rw [left, right]
          rfl
        · rw [left, right]
          rfl

/-- A run that finishes does so by the deadline. -/
theorem run_finished {result : α} (program : Program α) (limited : limits.deadline = some deadline)
    (begun : now ≤ deadline)
    (finished : run ledger limits program now world = (.finished result, instant, after)) :
    now ≤ instant ∧ instant ≤ deadline := by
  induction program generalizing now world with
  | done result =>
      cases finished
      exact ⟨Nat.le_refl _, begun⟩
  | step s next ih =>
      simp only [run] at finished
      by_cases prompt : (world.start ledger s).delay = 0
      · simp only [prompt, if_true] at finished
        exact ih _ begun finished
      · simp only [prompt, if_false] at finished
        obtain ⟨unbroken, -⟩ | ⟨_, broken, -⟩ | ⟨_, broken, -⟩ :=
          limits.interrupt_cases α α (now + (world.start ledger s).delay)
        · rw [unbroken] at finished
          have later := ih _ (Limits.le_of_interrupt limited unbroken) finished
          omega
        · rw [broken] at finished
          cases finished
        · rw [broken] at finished
          cases finished

end Program

namespace Task

theorem run_attempt_bind (task : Task α) (f : Except Fault α → Task β) :
    Program.run ledger limits (task.attempt >>= f).run now world =
      Program.carryOn ledger limits (fun outcome => (f outcome).run)
        (Program.run ledger limits task.run now world) := by
  have nested : (task.attempt >>= f).run = (task.run.bind fun outcome => .done (.ok outcome)).bind
      (ExceptT.bindCont f) := rfl
  rw [nested, Program.run_bind, Program.run_bind]
  rcases Program.run ledger limits task.run now world with ⟨_ | _ | _, instant, after⟩ <;> rfl

theorem run_attempt_congr (task : Task α) {f g : Except Fault α → Task β}
    (limited : limits.deadline = some deadline) (begun : now ≤ deadline)
    (agree : ∀ outcome instant after, now ≤ instant → instant ≤ deadline →
      Program.run ledger limits (f outcome).run instant after =
        Program.run ledger limits (g outcome).run instant after) :
    Program.run ledger limits (task.attempt >>= f).run now world =
      Program.run ledger limits (task.attempt >>= g).run now world := by
  rw [run_attempt_bind, run_attempt_bind]
  cases ran : Program.run ledger limits task.run now world with
  | mk ended left =>
      obtain ⟨instant, after⟩ := left
      cases ended with
      | finished outcome =>
          have bounds := Program.run_finished task.run limited begun ran
          exact agree outcome instant after bounds.1 bounds.2
      | timedOut | cancelled => rfl

theorem run_pause_congr {f g : Unit → Task β} {ms : Nat} (limited : limits.deadline = some deadline)
    (begun : now ≤ deadline)
    (agree : now + ms ≤ deadline → Program.run ledger limits (f ()).run (now + ms) world =
      Program.run ledger limits (g ()).run (now + ms) world) :
    Program.run ledger limits (pause ms >>= f).run now world =
      Program.run ledger limits (pause ms >>= g).run now world := by
  change Program.run ledger limits (.step (.pause ms) fun _ => (f ()).run) now world =
    Program.run ledger limits (.step (.pause ms) fun _ => (g ()).run) now world
  have delay : (world.start ledger (.pause ms)).delay = ms := rfl
  simp only [Program.run, delay]
  by_cases prompt : ms = 0
  · simp only [prompt, if_true]
    subst prompt
    exact agree begun
  · simp only [prompt, if_false]
    cases unbroken : (limits.interrupt (now + ms) : Option (Ended (Except Fault β) × Nat)) with
    | none => exact agree (Limits.le_of_interrupt limited unbroken)
    | some ended => rfl

theorem run_draw_congr {most : Nat} {f g : Fin (most + 1) → Task β}
    (agree : ∀ drawn, Program.run ledger limits (f drawn).run now world =
      Program.run ledger limits (g drawn).run now world) :
    Program.run ledger limits (draw most >>= f).run now world =
      Program.run ledger limits (draw most >>= g).run now world := by
  change Program.run ledger limits (.step (.draw most) fun drawn => (f drawn).run) now world =
    Program.run ledger limits (.step (.draw most) fun drawn => (g drawn).run) now world
  have delay : (world.start ledger (.draw most)).delay = 0 := rfl
  simp only [Program.run, delay, if_true]
  exact agree (ledger.chance world.ledger most)

end Task

end Notary
