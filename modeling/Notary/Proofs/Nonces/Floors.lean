import Notary.Proofs.Program.Discipline
import Notary.Tracker.Submitting

namespace Notary

/-!
The floor above which a submission draws its nonce: what the ledger has last told it of the next nonce
of its account.
-/

namespace Floor

variable {α β : Type} {told : Option (Address × Nat)}

def allows : Option (Address × Nat) → Step → Prop
  | told, .reserve account floor => told = some (account, floor)
  | _, _ => True

/-- What the ledger has told last, with the account that it told of. -/
def after : Option (Address × Nat) → (step : Step) → step.Reply → Option (Address × Nat)
  | _, .ask (.pendingNonce account), .ok pending => some (account, pending)
  | told, _, _ => told

def discipline : Discipline (Option (Address × Nat)) :=
  ⟨allows, after⟩

/-- The task draws nonces above what it was told, whatever that was before. -/
def Heeds (task : Task α) : Prop :=
  ∀ told, task.Keeps discipline (fun _ _ => True) told

theorem heeds_settled {outcome : Except Fault α} : Heeds (Task.settled outcome) :=
  fun _ => trivial

theorem heeds_pure {result : α} : Heeds (pure result) := fun _ => trivial

theorem heeds_fail {e : Error} : Heeds (Task.fail e : Task α) := fun _ => trivial

theorem heeds_ofResult {result : Except Error α} : Heeds (Task.ofResult result) :=
  fun _ => Task.keeps_ofResult.mpr trivial

theorem heeds_ask {call : Call} : Heeds (Task.ask call) :=
  fun _ => Task.keeps_ask.mpr ⟨trivial, fun _ => trivial⟩

theorem heeds_release {account : Address} {nonce : Nat} : Heeds (Task.release account nonce) :=
  fun _ => Task.keeps_release.mpr ⟨trivial, fun _ => trivial⟩

theorem heeds_note {metric : Metric} : Heeds (Task.note metric) :=
  fun _ => Task.keeps_note.mpr ⟨trivial, fun _ => trivial⟩

theorem Heeds.bind {task : Task α} {f : α → Task β} (first : Heeds task)
    (rest : ∀ result, Heeds (f result)) : Heeds (task >>= f) := by
  intro told
  refine Task.keeps_bind.mpr ((first told).mono fun told outcome _ => ?_)
  cases outcome with
  | ok result => exact rest result told
  | error fault => trivial

theorem Heeds.attempt {task : Task α} (heeds : Heeds task) : Heeds task.attempt :=
  fun told => Task.keeps_attempt.mpr (heeds told)

theorem Heeds.mapFailure {task : Task α} (heeds : Heeds task) (change : Error → Error) :
    Heeds (task.mapFailure change) :=
  fun told => Task.keeps_mapFailure.mpr (heeds told)

end Floor

namespace Tracker

open Floor

variable {tracker : Tracker} {account : Address} {options : SubmitOptions} {nonce : Nat}

theorem chooseNonce_heeds : Heeds (chooseNonce account options) := by
  unfold chooseNonce
  cases options.nonce with
  | some nonce => exact heeds_pure
  | none =>
      intro told
      refine Task.keeps_bind.mpr (Task.keeps_ask.mpr ⟨trivial, fun reply => ?_⟩)
      cases reply with
      | error fault => trivial
      | ok pending => exact Task.keeps_reserve.mpr ⟨rfl, fun _ => trivial⟩

theorem prepare_heeds {length : Nat} : Heeds (tracker.prepare account length options) := by
  unfold prepare
  refine heeds_ask.bind fun reported => heeds_ofResult.bind fun gasPrice => ?_
  refine chooseNonce_heeds.bind fun nonce => heeds_settled.bind fun dataLength => ?_
  exact heeds_settled.bind fun gasLimit => heeds_pure

theorem giveBack_heeds : Heeds (giveBack account options nonce) := by
  unfold giveBack
  split
  · exact heeds_release.bind fun _ => heeds_pure
  · exact heeds_pure

theorem broadcast_heeds {signed : SignedTransaction} : Heeds (broadcast options signed) := by
  unfold broadcast
  refine heeds_ask.attempt.bind fun sent => ?_
  cases sent with
  | ok hash => exact heeds_pure
  | error fault =>
      cases fault with
      | breakdown message => exact heeds_settled
      | failure e =>
          by_cases known : Rejection.isAlreadyKnown e.message
          · simp only [known, if_true]
            exact heeds_pure
          · simp only [known]
            exact giveBack_heeds.bind fun _ => heeds_fail

theorem attemptSubmit_heeds {signer : Signer} {payload : Bytes} :
    Heeds (tracker.attemptSubmit signer payload options) := by
  unfold attemptSubmit
  refine (heeds_ask.mapFailure asBroadcast).bind fun submittedAt => ?_
  refine (prepare_heeds.mapFailure asBroadcast).bind fun terms => ?_
  cases signer.signPayload payload options.appId terms with
  | error e => exact giveBack_heeds.bind fun _ => heeds_fail
  | ok signed => exact broadcast_heeds.bind fun _ => heeds_pure

theorem submit_heeds {signer : Signer} {payload : Bytes} :
    Heeds (tracker.submit signer payload options) := by
  unfold submit
  refine attemptSubmit_heeds.attempt.bind fun outcome => ?_
  cases outcome with
  | ok submission => exact heeds_note.bind fun _ => heeds_pure
  | error fault =>
      cases fault with
      | breakdown message => exact heeds_settled
      | failure e => exact heeds_note.bind fun _ => heeds_fail

end Tracker

end Notary
