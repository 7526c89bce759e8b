import Notary.Proofs.Program.Effect
import Notary.Proofs.Session.Soundness

namespace Notary

/-!
What a session does to its ledger it does by calls. So a property of the ledger that no call breaks
stays true for ever, if no change from outside breaks it either.
-/

variable {σ : Type} {ledger : Ledger σ} {holds : σ → Prop}

theorem Tracker.awaitFinality_preserves {tracker : Tracker} {submission : Submission}
    {signalled : Bool} {cancelAt : Option Nat} {world : World σ}
    (preserves : ledger.Preserves holds) (here : holds world.ledger) :
    holds (tracker.awaitFinality ledger submission signalled cancelAt world).2.2.ledger := by
  have kept := preserves.run ⟨some tracker.deadline, cancelAt⟩
    (tracker.poll submission tracker.rounds tracker.freshBackoff).run 0 world here
  unfold awaitFinality
  cases signalled with
  | true => exact here
  | false =>
      simp only [Bool.false_eq_true, if_false, wait]
      cases ran : Program.run ledger ⟨some tracker.deadline, cancelAt⟩
          (tracker.poll submission tracker.rounds tracker.freshBackoff).run 0 world with
      | mk ended rest =>
          rw [ran] at kept
          cases ended <;> exact kept

namespace Docket

variable {docket : Docket σ}

theorem submit_preserves (preserves : ledger.Preserves holds) (here : holds docket.world.ledger)
    (signer : Signer) (payload : Bytes) (options : SubmitOptions) :
    holds (docket.submit ledger signer payload options).2.2.world.ledger := by
  unfold submit
  have kept := preserves.runAll (docket.tracker.submit signer payload options).run 0 docket.world here
  cases performed : docket.perform ledger (docket.tracker.submit signer payload options) with
  | mk result rest =>
      obtain ⟨ms, after⟩ := rest
      obtain ⟨-, rfl⟩ := Prod.mk.inj (Prod.mk.inj performed).2
      cases result <;> exact kept

theorem resolve_preserves (preserves : ledger.Preserves holds) (here : holds docket.world.ledger)
    (number : Nat) (cancelAt : Option Nat) :
    holds (docket.resolve ledger number cancelAt).2.2.world.ledger := by
  unfold resolve
  cases stored : docket.find number with
  | error fault => exact here
  | ok found =>
      simp only
      cases docket.outcome? found with
      | some outcome => cases outcome <;> exact here
      | none =>
          simp only [await, stored, settle_world]
          exact Tracker.awaitFinality_preserves preserves here

end Docket

namespace Session

variable {session last : Session σ} {turns : List (Turn σ)}

theorem submitWithOptions_preserves (preserves : ledger.Preserves holds) (here : holds session.state)
    (handle : Handle) (payload : Bytes) (options : SubmitOptions) :
    holds (session.submitWithOptions ledger handle payload options).2.state := by
  unfold submitWithOptions
  cases session.registry.signer handle with
  | error e => exact here
  | ok signer =>
      have kept := Docket.submit_preserves preserves here signer payload options
      cases submitted : session.docket.submit ledger signer payload options with
      | mk result rest =>
          simp only [submitted] at kept ⊢
          cases result <;> exact kept

theorem answer_preserves (preserves : ledger.Preserves holds) (here : holds session.state)
    (request : Request σ)
    (outside : ∀ change, request = .ledger change → holds (change session.state)) :
    holds (session.answer ledger request).2.state := by
  cases request with
  | initializeSigner seed =>
      simp only [answer, initializeSigner]
      cases Seed.derive seed <;> exact here
  | submitData word payload appId =>
      simp only [answer, submitData]
      split
      · exact here
      · exact submitWithOptions_preserves preserves here _ payload _
  | submitWithOptions word payload options =>
      exact submitWithOptions_preserves preserves here _ payload options
  | transactionReceipt word cancelAt =>
      simp only [answer, transactionReceipt]
      cases session.registry.submission (.ofWord word) with
      | error e => exact here
      | ok number => exact Docket.resolve_preserves preserves here number cancelAt
  | cancelSubmission word =>
      simp only [answer, cancelSubmission]
      cases session.registry.submission (.ofWord word) <;> exact here
  | receiptNew word =>
      simp only [answer, receiptNew]
      cases session.registry.receipt (.ofWord word) <;> exact here
  | releaseSubmission word =>
      simp only [answer, releaseSubmission]
      cases released : session.releaseKind (.ofWord word) .submission with
      | mk result left =>
          obtain ⟨-, rfl⟩ := Prod.mk.inj released
          rcases result with fault | signer | number | record <;> exact here
  | ledger change => exact outside change rfl
  | receiptFree | releaseSigner | releaseReceipt | registry | signMessage | submission | receipt
  | record => exact here

theorem Turns.preserves (happened : Turns ledger session turns last)
    (preserves : ledger.Preserves holds) (here : holds session.state)
    (outside : ∀ turn ∈ turns, ∀ change, turn.request = .ledger change →
      ∀ state, holds state → holds (change state)) : holds last.state := by
  induction happened with
  | nil => exact here
  | cons turn answered goesOn ih =>
      refine ih ?_ fun later member => outside later (List.mem_cons_of_mem turn member)
      have kept := answer_preserves preserves here turn.request fun change same =>
        outside turn List.mem_cons_self change same _ here
      rwa [answered] at kept

end Session

end Notary
