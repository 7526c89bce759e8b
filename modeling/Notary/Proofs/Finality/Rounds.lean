import Notary.Proofs.Finality.Polling
import Notary.Proofs.Program.Deadline

namespace Notary.Tracker

/-!
The bound on the rounds of a wait never shows: the deadline comes first.
-/

variable {σ : Type} {ledger : Ledger σ} {limits : Limits} {now deadline : Nat} {world : World σ}
  {tracker : Tracker} {submission : Submission}

theorem backoff_fail_some {backoff counted : Backoff} {jitter delay : Nat}
    (failed : backoff.fail jitter = (.ok (some delay), counted)) :
    backoff.failures < backoff.budget ∧ counted = { backoff with failures := backoff.failures + 1 } := by
  unfold Backoff.fail Checked.add at failed
  split at failed
  · cases failed
  · rename_i failures added
    split at added
    · cases added
      split at failed
      · cases failed
      · obtain ⟨-, rfl⟩ := Prod.mk.inj failed
        exact ⟨by omega, rfl⟩
    · cases added

theorem run_drawJitter_congr {β : Type} (backoff : Backoff) {f g : Nat → Task β}
    (agree : ∀ jitter, Program.run ledger limits (f jitter).run now world =
      Program.run ledger limits (g jitter).run now world) :
    Program.run ledger limits (drawJitter backoff >>= f).run now world =
      Program.run ledger limits (drawJitter backoff >>= g).run now world := by
  unfold drawJitter
  split
  · exact Task.run_draw_congr fun drawn => agree drawn
  · exact agree 0

theorem run_bear {rounds others : Nat} {backoff : Backoff} (e : Error)
    (limited : limits.deadline = some deadline) (begun : now ≤ deadline)
    (agree : ∀ delay, now + delay ≤ deadline → backoff.failures < backoff.budget →
      Program.run ledger limits (tracker.poll submission others
        { backoff with failures := backoff.failures + 1 }).run (now + delay) world =
      Program.run ledger limits (tracker.poll submission rounds
        { backoff with failures := backoff.failures + 1 }).run (now + delay) world) :
    Program.run ledger limits (tracker.bear submission others backoff e).run now world =
      Program.run ledger limits (tracker.bear submission rounds backoff e).run now world := by
  refine run_drawJitter_congr backoff fun jitter => ?_
  cases failed : backoff.fail jitter with
  | mk delay counted =>
      rcases delay with fault | _ | delay
      · rfl
      · rfl
      · obtain ⟨within, rfl⟩ := backoff_fail_some failed
        exact Task.run_pause_congr limited begun fun timely => agree delay timely within

/-- What a millisecond that has passed pays for: a check that succeeds, and as many failures as the
budget allows. -/
theorem spent_le {wake : Nat} (later : now < wake) (due : wake ≤ deadline) (budget : Nat) :
    (deadline - wake) * (budget + 1) + (budget + 1) ≤ (deadline - now) * (budget + 1) := by
  rw [← Nat.succ_mul]
  exact Nat.mul_le_mul_right _ (by omega)

theorem rounds_enough (tracker : Tracker) :
    tracker.deadline * (tracker.finality.maxRpcFailures + 1) + tracker.finality.maxRpcFailures <
      tracker.rounds := by
  have wide : tracker.deadline * (tracker.finality.maxRpcFailures + 1) ≤
      tracker.deadline * (tracker.finality.maxRpcFailures + 2) := Nat.mul_le_mul_left _ (by omega)
  simp only [rounds, Nat.add_mul]
  omega

/-- Rounds enough for the failures that are left, and in each millisecond that is left for a check
that succeeds and all the failures that the budget allows after it, are as good as any more. -/
theorem run_poll (limited : limits.deadline = some deadline)
    (timed : 0 < tracker.finality.pollIntervalMs) (begun : now ≤ deadline) (rounds more : Nat)
    (backoff : Backoff)
    (enough : (deadline - now) * (backoff.budget + 1) + (backoff.budget - backoff.failures) < rounds) :
    Program.run ledger limits (tracker.poll submission (rounds + more) backoff).run now world =
      Program.run ledger limits (tracker.poll submission rounds backoff).run now world := by
  induction rounds generalizing now world backoff with
  | zero => omega
  | succ rounds ih =>
      rw [Nat.add_right_comm, poll, poll]
      refine Task.run_attempt_congr _ limited begun fun outcome instant after later due => ?_
      have renewed : Program.run ledger limits (do
          Task.pause tracker.finality.pollIntervalMs
          tracker.poll submission (rounds + more) backoff.reset : Task FinalityRecord).run instant
            after = Program.run ledger limits (do
          Task.pause tracker.finality.pollIntervalMs
          tracker.poll submission rounds backoff.reset : Task FinalityRecord).run instant after := by
        refine Task.run_pause_congr limited due fun within => ih within _ ?_
        have spent := spent_le (Nat.lt_of_le_of_lt later (Nat.lt_add_of_pos_right timed)) within
          backoff.budget
        simp only [Backoff.reset]
        omega
      cases outcome with
      | ok status =>
          cases status with
          | confirmed | failed => rfl
          | pending | confirming => exact renewed
      | error fault =>
          cases fault with
          | breakdown message => rfl
          | failure e =>
              have borne : Program.run ledger limits
                  (tracker.bear submission (rounds + more) backoff e).run instant after =
                    Program.run ledger limits
                      (tracker.bear submission rounds backoff e).run instant after := by
                refine run_bear e limited due fun delay timely within => ih timely _ ?_
                have less : (deadline - (instant + delay)) * (backoff.budget + 1) ≤
                    (deadline - now) * (backoff.budget + 1) := Nat.mul_le_mul_right _ (by omega)
                dsimp only
                omega
              cases e <;> first | exact borne | rfl

theorem wait_rounds (ledger : Ledger σ) (tracker : Tracker) (submission : Submission)
    (cancelAt : Option Nat) (world : World σ) (timed : 0 < tracker.finality.pollIntervalMs)
    (more : Nat) :
    Program.run ledger ⟨some tracker.deadline, cancelAt⟩
        (tracker.poll submission (tracker.rounds + more) tracker.freshBackoff).run 0 world =
      Program.run ledger ⟨some tracker.deadline, cancelAt⟩
        (tracker.poll submission tracker.rounds tracker.freshBackoff).run 0 world :=
  run_poll rfl timed (Nat.zero_le _) tracker.rounds more tracker.freshBackoff (rounds_enough tracker)

end Notary.Tracker
