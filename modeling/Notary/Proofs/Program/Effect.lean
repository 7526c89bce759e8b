import Notary.Proofs.Program.Crew

namespace Notary

/-!
What a program does to the world it runs in alone. The discipline of a ledger forbids nothing and goes
from what is known of the world to what is known of it after a step and its reply, so that its rules
become those of preconditions and postconditions.
-/

variable {σ α β : Type} {ledger : Ledger σ}

def Discipline.following (ledger : Ledger σ) : Discipline (World σ → Prop) where
  allows _ _ := True
  after known step reply := fun world =>
    ∃ before, known before ∧ before.serve ledger step = (reply, world)

/-- In a world of which something is known, the program ends with what is asked of its result and the
world it leaves. -/
def Program.Leads (ledger : Ledger σ) (known : World σ → Prop) (post : α → World σ → Prop)
    (program : Program α) : Prop :=
  program.Keeps (.following ledger) (fun known result => ∀ world, known world → post result world)
    known

namespace Program

variable {known weak : World σ → Prop} {post : α → World σ → Prop} {program : Program α}

theorem Leads.of_known (leads : program.Leads ledger weak post)
    (stronger : ∀ world, known world → weak world) : program.Leads ledger known post := by
  induction program generalizing known weak with
  | done result => exact fun world here => leads world (stronger world here)
  | step s next ih =>
      refine ⟨trivial, fun reply => ih reply (leads.2 reply) fun world => ?_⟩
      rintro ⟨before, here, served⟩
      exact ⟨before, stronger before here, served⟩

theorem Leads.runAll (leads : program.Leads ledger known post) (now : Nat) (world : World σ)
    (here : known world) :
    post (runAll ledger program now world).1 (runAll ledger program now world).2.2 := by
  induction program generalizing known now world with
  | done result => exact leads world here
  | step s next ih => exact ih _ (leads.2 _) _ _ ⟨world, here, rfl⟩

end Program

namespace Task

variable {known : World σ → Prop} {post : Except Fault α → World σ → Prop}

def Leads (ledger : Ledger σ) (known : World σ → Prop) (post : Except Fault α → World σ → Prop)
    (task : Task α) : Prop :=
  task.run.Leads ledger known post

theorem leads_pure {result : α} (ends : ∀ world, known world → post (.ok result) world) :
    Leads ledger known post (pure result) := ends

theorem leads_settled {outcome : Except Fault α} (ends : ∀ world, known world → post outcome world) :
    Leads ledger known post (settled outcome) := ends

theorem leads_fail {e : Error} (ends : ∀ world, known world → post (.error (.failure e)) world) :
    Leads ledger known post (fail e) := ends

theorem leads_ofResult {result : Except Error α}
    (ends : ∀ world, known world → post (result.mapError .failure) world) :
    Leads ledger known post (ofResult result) :=
  keeps_ofResult.mpr ends

theorem Leads.bind {middle : Except Fault α → World σ → Prop}
    {post : Except Fault β → World σ → Prop} {task : Task α} {f : α → Task β}
    (first : Leads ledger known middle task)
    (rest : ∀ result, Leads ledger (middle (.ok result)) post (f result))
    (fails : ∀ fault world, middle (.error fault) world → post (.error fault) world) :
    Leads ledger known post (task >>= f) := by
  refine keeps_bind.mpr (Program.Keeps.mono first fun reached outcome ended => ?_)
  cases outcome with
  | ok result => exact (rest result).of_known ended
  | error fault => exact fun world here => fails fault world (ended world here)

theorem leads_ask {call : Call} {post : call.Reply → World σ → Prop}
    (ends : ∀ world, known world → ∀ reply state,
      ledger.ask call world.ledger = (reply, state) → post reply { world with ledger := state }) :
    Leads ledger known post (ask call) := by
  refine keeps_ask.mpr ⟨trivial, fun reply world served => ?_⟩
  obtain ⟨before, here, served⟩ := served
  cases served
  exact ends before here _ _ rfl

theorem leads_reserve {account : Address} {floor : Nat} {post : Except Fault Nat → World σ → Prop}
    (ends : ∀ world, known world → ∀ reply book,
      world.book.reserve account floor = (reply, book) → post reply { world with book }) :
    Leads ledger known post (reserve account floor) := by
  refine keeps_reserve.mpr ⟨trivial, fun reply world served => ?_⟩
  obtain ⟨before, here, served⟩ := served
  cases served
  exact ends before here _ _ rfl

theorem leads_release {account : Address} {nonce : Nat} {post : Except Fault Bool → World σ → Prop}
    (ends : ∀ world, known world → ∀ reply book,
      world.book.release account nonce = (reply, book) → post reply { world with book }) :
    Leads ledger known post (release account nonce) := by
  refine keeps_release.mpr ⟨trivial, fun reply world served => ?_⟩
  obtain ⟨before, here, served⟩ := served
  cases served
  exact ends before here _ _ rfl

theorem leads_note {metric : Metric} {post : Except Fault Unit → World σ → Prop}
    (ends : ∀ world, known world →
      post (.ok ()) { world with metrics := world.metrics.increment metric }) :
    Leads ledger known post (note metric) := by
  refine keeps_note.mpr ⟨trivial, fun reply world served => ?_⟩
  obtain ⟨before, here, served⟩ := served
  cases served
  exact ends before here

theorem Leads.attempt_bind {middle : Except Fault α → World σ → Prop}
    {post : Except Fault β → World σ → Prop} {task : Task α} {f : Except Fault α → Task β}
    (first : Leads ledger known middle task)
    (rest : ∀ outcome, Leads ledger (middle outcome) post (f outcome)) :
    Leads ledger known post (task.attempt >>= f) :=
  keeps_bind.mpr <| keeps_attempt.mpr <| Program.Keeps.mono first fun _ outcome ended =>
    goesOn_ok.mpr ((rest outcome).of_known ended)

theorem Leads.mapFailure {change : Error → Error} {task : Task α}
    (leads : Leads ledger known (fun outcome => post (changed change outcome)) task) :
    Leads ledger known post (task.mapFailure change) :=
  keeps_mapFailure.mpr leads

theorem Leads.mono {strong : Except Fault α → World σ → Prop} {task : Task α}
    (leads : Leads ledger known strong task)
    (weaker : ∀ outcome world, strong outcome world → post outcome world) :
    Leads ledger known post task :=
  Program.Keeps.mono leads fun _ outcome ended world here => weaker outcome world (ended world here)

end Task

/-! What no call of a ledger breaks stays true under every program, also under one that is broken off
while a call is on its way. -/

structure Ledger.Preserves (ledger : Ledger σ) (holds : σ → Prop) : Prop where
  starts : ∀ call state, holds state → holds (ledger.start call state).state
  finishes : ∀ call origin state, holds state → holds ((ledger.start call origin).finish state).2

variable {holds : σ → Prop}

theorem Ledger.preserves_ofAnswers {answer : (call : Call) → σ → call.Reply × σ} {chance : Chance σ}
    (kept : ∀ call state, holds state → holds (answer call state).2) :
    (Ledger.ofAnswers answer chance).Preserves holds where
  starts _ _ here := here
  finishes call _ state here := kept call state here

namespace Ledger.Preserves

theorem start (preserves : ledger.Preserves holds) (step : Step) (world : World σ)
    (here : holds world.ledger) : holds (world.start ledger step).state.ledger := by
  cases step with
  | ask call => exact preserves.starts call world.ledger here
  | reserve | release | pause | draw | note => exact here

theorem finish (preserves : ledger.Preserves holds) (step : Step) (origin world : World σ)
    (here : holds world.ledger) :
    holds ((origin.start ledger step).finish world).2.ledger := by
  cases step with
  | ask call => exact preserves.finishes call origin.ledger world.ledger here
  | reserve | release | pause | draw | note => exact here

theorem runAll (preserves : ledger.Preserves holds) (program : Program α) (now : Nat)
    (world : World σ) (here : holds world.ledger) :
    holds (Program.runAll ledger program now world).2.2.ledger := by
  induction program generalizing now world with
  | done result => exact here
  | step s next ih => exact ih _ _ _ (preserves.finish s world _ (preserves.start s world here))

theorem run (preserves : ledger.Preserves holds) (limits : Limits) (program : Program α) (now : Nat)
    (world : World σ) (here : holds world.ledger) :
    holds (Program.run ledger limits program now world).2.2.ledger := by
  induction program generalizing now world with
  | done result => exact here
  | step s next ih =>
      have started := preserves.start s world here
      simp only [Program.run]
      split
      · exact started
      · exact ih _ _ _ (preserves.finish s world _ started)

end Ledger.Preserves

end Notary
