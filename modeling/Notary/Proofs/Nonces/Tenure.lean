import Notary.Proofs.Program.Crew
import Notary.Tracker.Submitting

namespace Notary

/-!
How a submission deals with its nonce. It draws one for its own account at most, gives back no other
one, and holds the one it drew when it is accepted; a submission that brings a nonce of its own keeps
away from the book.
-/

/-- The step has nothing to do with the book of nonces. -/
def Step.Aloof : Step → Prop
  | .reserve _ _ | .release _ _ | .ask (.pendingNonce _) => False
  | _ => True

/-- The nonce that a submission has drawn. -/
inductive Tenure where
  | idle
  | holding (nonce : Nat)
  | ended

namespace Tenure

def allows (account : Address) (options : SubmitOptions) : Tenure → Step → Prop
  | idle, .reserve other _ => options.nonce = none ∧ other = account
  | holding nonce, .release other returned =>
      options.nonce = none ∧ other = account ∧ returned = nonce
  | _, .ask (.pendingNonce _) => options.nonce = none
  | _, .reserve _ _ | _, .release _ _ => False
  | _, _ => True

def after : Tenure → (step : Step) → step.Reply → Tenure
  | idle, .reserve _ _, .ok nonce => holding nonce
  | holding _, .release _ _, _ => ended
  | tenure, _, _ => tenure

/-- What a submission may do with the nonces of its account. -/
def discipline (account : Address) (options : SubmitOptions) : Discipline Tenure :=
  ⟨allows account options, after⟩

/-- The tenure of a submission that goes on with a nonce. -/
def carrying (options : SubmitOptions) (nonce : Nat) : Tenure :=
  match options.nonce with
  | none => holding nonce
  | some _ => idle

def Free (tenure : Tenure) : Prop :=
  ∀ nonce, tenure ≠ holding nonce

/-- How work on a submission ends: with the nonce of its result, or without any if it failed. -/
def EndsWith {α : Type} (tenure : Tenure) (accepts : α → Tenure → Prop) : Except Fault α → Prop
  | .ok result => accepts result tenure
  | .error (.failure _) => tenure.Free
  | .error (.breakdown _) => True

variable {α β : Type} {tenure : Tenure} {account : Address} {options : SubmitOptions}

theorem idle_free : idle.Free := fun _ => nofun

theorem ended_free : ended.Free := fun _ => nofun

theorem Free.endsWith_error {accepts : α → Tenure → Prop} (free : tenure.Free) (fault : Fault) :
    tenure.EndsWith accepts (.error fault) := by
  cases fault with
  | failure e => exact free
  | breakdown message => trivial

/-- The task keeps the discipline of a submission, and ends as work on it ends. -/
def Keeps (account : Address) (options : SubmitOptions) (accepts : α → Tenure → Prop)
    (tenure : Tenure) (task : Task α) : Prop :=
  task.Keeps (discipline account options) (fun tenure => tenure.EndsWith accepts) tenure

theorem Keeps.bind {accepts : β → Tenure → Prop} {middle : α → Tenure → Prop} {task : Task α}
    {f : α → Task β} (first : Keeps account options middle tenure task)
    (rest : ∀ result tenure, middle result tenure → Keeps account options accepts tenure (f result)) :
    Keeps account options accepts tenure (task >>= f) := by
  refine Task.keeps_bind.mpr (first.mono fun tenure outcome ended => ?_)
  cases outcome with
  | ok result => exact rest result tenure ended
  | error fault => cases fault <;> exact ended

theorem keeps_pure {accepts : α → Tenure → Prop} {result : α} (accepted : accepts result tenure) :
    Keeps account options accepts tenure (pure result) := accepted

theorem allows_of_aloof {step : Step} (aloof : step.Aloof) : allows account options tenure step := by
  cases step with
  | ask call => cases call <;> cases tenure <;> trivial
  | reserve | release => exact aloof.elim
  | pause | draw | note => cases tenure <;> trivial

theorem ask_keeps {call : Call} (free : tenure.Free)
    (allowed : allows account options tenure (.ask call)) :
    Keeps account options (fun _ after => after = tenure) tenure (Task.ask call) := by
  have ends : ∀ reply : call.Reply, tenure.EndsWith (fun _ after => after = tenure) reply := by
    rintro (fault | answer)
    · exact free.endsWith_error fault
    · rfl
  cases tenure <;> exact Task.keeps_ask.mpr ⟨allowed, ends⟩

/-- A call to the ledger does not move a submission that goes on with a nonce. -/
theorem ask_keeps_carrying {call : Call} {nonce : Nat} {post : Tenure → call.Reply → Prop}
    (allowed : allows account options (carrying options nonce) (.ask call))
    (ends : ∀ reply : call.Reply, post (carrying options nonce) reply) :
    (Task.ask call).Keeps (discipline account options) post (carrying options nonce) := by
  refine Task.keeps_ask.mpr ⟨allowed, ?_⟩
  revert ends
  unfold carrying
  cases options.nonce <;> exact id

theorem note_keeps {metric : Metric} :
    Keeps account options (fun _ after => after = tenure) tenure (Task.note metric) := by
  cases tenure <;> exact Task.keeps_note.mpr ⟨trivial, fun _ => rfl⟩

theorem Keeps.mapFailure {accepts : α → Tenure → Prop} {task : Task α}
    (kept : Keeps account options accepts tenure task) (change : Error → Error) :
    Keeps account options accepts tenure (task.mapFailure change) := by
  refine Task.keeps_mapFailure.mpr (Task.Keeps.mono kept fun tenure outcome ended => ?_)
  cases outcome with
  | ok result => exact ended
  | error fault => cases fault <;> exact ended

end Tenure

theorem AppData.gasLimit_eq_error {length : Nat} {fault : Fault}
    (failed : AppData.gasLimit length = .error fault) : ∃ message, fault = .breakdown message := by
  unfold AppData.gasLimit at failed
  cases product : Checked.mul 64 length byteGas with
  | error broken =>
      rw [product] at failed
      obtain rfl : broken = fault := Except.error.inj failed
      exact Checked.mul_eq_error product
  | ok dataGas =>
      rw [product] at failed
      exact Checked.add_eq_error failed

theorem Signer.seal_ok {signer : Signer} {tx : Transaction} {appId chainId : Nat}
    {signature : Option Secp256k1.Signature} {signed : SignedTransaction}
    (done : signer.seal tx appId chainId signature = .ok signed) :
    signed.sender = signer.address ∧ signed.nonce = tx.nonce := by
  cases signature with
  | none => cases done
  | some signature =>
      cases done
      exact ⟨rfl, rfl⟩

namespace Tracker

open Tenure

variable {account : Address} {options : SubmitOptions} {tracker : Tracker} {nonce : Nat}
  {tenure : Tenure}

theorem chooseNonce_keeps :
    Tenure.Keeps account options (fun nonce tenure => tenure = carrying options nonce) idle
      (chooseNonce account options) := by
  unfold chooseNonce carrying
  cases given : options.nonce with
  | none =>
      refine Tenure.Keeps.bind (ask_keeps idle_free given) ?_
      rintro pending _ rfl
      refine Task.keeps_reserve.mpr ⟨⟨given, rfl⟩, fun drawn => ?_⟩
      cases drawn with
      | error fault => exact idle_free.endsWith_error fault
      | ok nonce => rfl
  | some nonce => rfl

/-- A result without steps that can only break down. -/
theorem settled_keeps {outcome : Except Fault Nat}
    (failing : ∀ fault, outcome = .error fault → ∃ message, fault = .breakdown message) :
    Tenure.Keeps account options (fun _ after => after = tenure) tenure (Task.settled outcome) := by
  refine Task.keeps_settled.mpr ?_
  cases outcome with
  | ok result => rfl
  | error fault =>
      obtain ⟨message, rfl⟩ := failing fault rfl
      trivial

theorem prepare_keeps {length : Nat} :
    Tenure.Keeps account options (fun terms tenure => tenure = carrying options terms.nonce) idle
      (tracker.prepare account length options) := by
  unfold prepare
  refine Tenure.Keeps.bind (ask_keeps idle_free trivial) ?_
  rintro reported _ rfl
  have priced : Tenure.Keeps account options (fun _ after => after = idle) idle
      (Task.ofResult (tracker.offeredPrice reported)) := by
    refine Task.keeps_ofResult.mpr ?_
    cases tracker.offeredPrice reported with
    | error e => exact idle_free
    | ok gasPrice => rfl
  refine priced.bind ?_
  rintro gasPrice _ rfl
  refine chooseNonce_keeps.bind ?_
  rintro nonce _ rfl
  refine (settled_keeps fun _ => Checked.add_eq_error).bind ?_
  rintro dataLength _ rfl
  refine (settled_keeps fun _ => AppData.gasLimit_eq_error).bind ?_
  rintro gasLimit _ rfl
  rfl

/-- Whatever the book answers, the nonce counts as given back. -/
theorem giveBack_keeps :
    (giveBack account options nonce).Keeps (discipline account options)
      (fun tenure _ => tenure.Free) (carrying options nonce) := by
  unfold giveBack carrying
  cases given : options.nonce with
  | none =>
      refine Task.keeps_bind.mpr (Task.keeps_release.mpr ⟨⟨given, rfl, rfl⟩, fun reply => ?_⟩)
      cases reply with
      | error fault => exact ended_free
      | ok returned => exact ended_free
  | some nonce => exact idle_free

theorem giveBack_fail_keeps {α : Type} {accepts : α → Tenure → Prop} (e : Error) :
    Tenure.Keeps account options accepts (carrying options nonce)
      (do giveBack account options nonce; Task.fail e) := by
  refine Task.keeps_bind.mpr (giveBack_keeps.mono fun tenure outcome free => ?_)
  cases outcome with
  | ok _ => exact free
  | error fault => exact free.endsWith_error fault

theorem broadcast_keeps {signed : SignedTransaction} :
    Tenure.Keeps signed.sender options (fun _ tenure => tenure = carrying options signed.nonce)
      (carrying options signed.nonce) (broadcast options signed) := by
  unfold broadcast
  refine Task.keeps_bind.mpr (Task.keeps_attempt.mpr
    (ask_keeps_carrying (allows_of_aloof trivial) fun reply => ?_))
  cases reply with
  | ok hash => rfl
  | error fault =>
      cases fault with
      | breakdown message => trivial
      | failure e =>
          refine Task.goesOn_ok.mpr ?_
          by_cases known : Rejection.isAlreadyKnown e.message
          · simp only [known, if_true]
            rfl
          · simp only [known]
            exact giveBack_fail_keeps (asBroadcast e)

theorem attemptSubmit_keeps {signer : Signer} {payload : Bytes} :
    Tenure.Keeps signer.address options
      (fun submission tenure => submission.transaction.sender = signer.address ∧
        tenure = carrying options submission.transaction.nonce) idle
      (tracker.attemptSubmit signer payload options) := by
  unfold attemptSubmit
  have headRead : Tenure.Keeps signer.address options (fun _ after => after = idle) idle
      (Task.ask .blockNumber) := ask_keeps idle_free trivial
  refine Tenure.Keeps.bind (headRead.mapFailure asBroadcast) ?_
  rintro submittedAt _ rfl
  refine Tenure.Keeps.bind (prepare_keeps.mapFailure asBroadcast) ?_
  rintro terms _ rfl
  cases payloadSigned : signer.signPayload payload options.appId terms with
  | error e => exact giveBack_fail_keeps e
  | ok signed =>
      obtain ⟨sender, nonce⟩ : signed.sender = signer.address ∧ signed.nonce = terms.nonce :=
        Signer.seal_ok payloadSigned
      rw [← sender, ← nonce]
      refine broadcast_keeps.bind ?_
      rintro _ _ rfl
      exact ⟨rfl, rfl⟩

theorem submit_keeps {signer : Signer} {payload : Bytes} :
    Tenure.Keeps signer.address options
      (fun submission tenure => submission.transaction.sender = signer.address ∧
        tenure = carrying options submission.transaction.nonce) idle
      (tracker.submit signer payload options) := by
  unfold submit
  refine Task.keeps_bind.mpr (Task.keeps_attempt.mpr (attemptSubmit_keeps.mono ?_))
  intro tenure outcome ended
  refine Task.goesOn_ok.mpr ?_
  cases outcome with
  | ok submission =>
      refine note_keeps.bind ?_
      rintro _ _ rfl
      exact ended
  | error fault =>
      cases fault with
      | breakdown message => trivial
      | failure e =>
          refine note_keeps.bind ?_
          rintro _ _ rfl
          exact ended

end Tracker

end Notary
