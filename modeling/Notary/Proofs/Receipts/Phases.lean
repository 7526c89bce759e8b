import Notary.Proofs.Delivery.Submitting
import Notary.Tracker.Finality

namespace Notary

/-!
What the work on a submission has learned of the ledger at each of its steps: a submission of the head
that it read before it sent its transaction, and the wait for a receipt of the answers that the check
under way has had so far.
-/

/-- A task that ends with a result has learned what the result asks for. -/
def Task.Learns {τ α : Type} (discipline : Discipline τ) (learned : α → τ → Prop) (phase : τ)
    (task : Task α) : Prop :=
  task.Keeps discipline (fun phase outcome => ∀ result, outcome = .ok result → learned result phase)
    phase

namespace Task

variable {τ α β : Type} {discipline : Discipline τ} {phase : τ} {learned : β → τ → Prop}

theorem learns_pure {result : β} (here : learned result phase) :
    (pure result : Task β).Learns discipline learned phase := by
  intro other same
  cases same
  exact here

theorem learns_fail (e : Error) : (fail e : Task β).Learns discipline learned phase := nofun

theorem learns_settled {outcome : Except Fault β} :
    (settled outcome).Learns discipline (fun _ after => after = phase) phase := fun _ _ => rfl

theorem learns_ofResult {result : Except Error β} :
    (ofResult result).Learns discipline (fun _ after => after = phase) phase :=
  keeps_ofResult.mpr fun _ _ => rfl

theorem Learns.bind {middle : α → τ → Prop} {task : Task α} {f : α → Task β}
    (first : task.Learns discipline middle phase)
    (rest : ∀ result phase, middle result phase → (f result).Learns discipline learned phase) :
    (task >>= f).Learns discipline learned phase := by
  refine keeps_bind.mpr (Program.Keeps.mono first fun phase outcome ended => ?_)
  cases outcome with
  | ok result => exact rest result phase (ended result rfl)
  | error fault => exact nofun

theorem Learns.mapFailure {task : Task β} (learns : task.Learns discipline learned phase)
    (change : Error → Error) : (task.mapFailure change).Learns discipline learned phase := by
  refine keeps_mapFailure.mpr (Program.Keeps.mono learns fun phase outcome ended => ?_)
  rcases outcome with (e | message) | result
  · exact nofun
  · exact nofun
  · exact ended

end Task

/-- How far a submission has come: what head it read, and what it sent. -/
inductive Sending where
  | idle
  | begun (height : Nat)
  | sent (height : Nat) (raw : Bytes) (taken : Bool)

namespace Sending

/-- A transaction is sent once, after the head was read. -/
def discipline : Discipline Sending where
  allows
    | phase, .ask (.sendRaw _) => ∃ height, phase = .begun height
    | _, _ => True
  after
    | .idle, .ask .blockNumber, .ok (height : Nat) => .begun height
    | .begun height, .ask (.sendRaw raw), reply => .sent height raw (reply matches .ok _)
    | phase, _, _ => phase

/-- A step that the discipline does not follow. -/
def Aloof : Step → Prop
  | .ask .blockNumber => False
  | .ask (.sendRaw _) => False
  | _ => True

theorem steady (phase : Sending) {step : Step} (aloof : Aloof step) :
    discipline.allows phase step ∧ ∀ reply, discipline.after phase step reply = phase := by
  cases step with
  | ask call => cases call <;> cases phase <;> first | exact aloof.elim | exact ⟨trivial, fun _ => rfl⟩
  | reserve | release | pause | draw | note => cases phase <;> exact ⟨trivial, fun _ => rfl⟩

variable {phase : Sending}

theorem ask_learns {call : Call} (aloof : Aloof (.ask call)) :
    (Task.ask call).Learns discipline (fun _ after => after = phase) phase := by
  obtain ⟨allowed, same⟩ := steady phase aloof
  exact Task.keeps_ask.mpr ⟨allowed, fun reply _ _ => same reply⟩

theorem reserve_learns (account : Address) (floor : Nat) :
    (Task.reserve account floor).Learns discipline (fun _ after => after = phase) phase := by
  have aloof : Aloof (.reserve account floor) := trivial
  obtain ⟨allowed, same⟩ := steady phase aloof
  exact Task.keeps_reserve.mpr ⟨allowed, fun reply _ _ => same reply⟩

theorem release_learns (account : Address) (nonce : Nat) :
    (Task.release account nonce).Learns discipline (fun _ after => after = phase) phase := by
  have aloof : Aloof (.release account nonce) := trivial
  obtain ⟨allowed, same⟩ := steady phase aloof
  exact Task.keeps_release.mpr ⟨allowed, fun reply _ _ => same reply⟩

theorem note_learns (metric : Metric) :
    (Task.note metric).Learns discipline (fun _ after => after = phase) phase := by
  have aloof : Aloof (.note metric) := trivial
  obtain ⟨allowed, same⟩ := steady phase aloof
  exact Task.keeps_note.mpr ⟨allowed, fun reply _ _ => same reply⟩

end Sending

namespace Tracker

open Sending

variable {phase : Sending} {tracker : Tracker} {account : Address} {options : SubmitOptions}
  {nonce : Nat} {signed : SignedTransaction}

theorem chooseNonce_learns :
    (chooseNonce account options).Learns Sending.discipline (fun _ after => after = phase) phase := by
  unfold chooseNonce
  cases options.nonce with
  | some nonce => exact Task.learns_pure rfl
  | none =>
      refine Task.Learns.bind (ask_learns trivial) ?_
      rintro pending _ rfl
      exact reserve_learns account pending

theorem prepare_learns {length : Nat} :
    (tracker.prepare account length options).Learns Sending.discipline
      (fun _ after => after = phase) phase := by
  unfold prepare
  refine Task.Learns.bind (ask_learns trivial) ?_
  rintro reported _ rfl
  refine Task.Learns.bind Task.learns_ofResult ?_
  rintro gasPrice _ rfl
  refine Task.Learns.bind chooseNonce_learns ?_
  rintro nonce _ rfl
  refine Task.Learns.bind Task.learns_settled ?_
  rintro dataLength _ rfl
  refine Task.Learns.bind Task.learns_settled ?_
  rintro gasLimit _ rfl
  exact Task.learns_pure rfl

theorem giveBack_learns :
    (giveBack account options nonce).Learns Sending.discipline (fun _ after => after = phase)
      phase := by
  unfold giveBack
  cases options.nonce with
  | some own => exact Task.learns_pure rfl
  | none =>
      refine Task.Learns.bind (release_learns account nonce) ?_
      rintro returned _ rfl
      exact Task.learns_pure rfl

theorem broadcast_learns (height : Nat) :
    (broadcast options signed).Learns Sending.discipline
      (fun _ after => ∃ taken, after = .sent height signed.raw taken) (.begun height) := by
  unfold broadcast
  refine Task.keeps_bind.mpr (Task.keeps_attempt.mpr (Task.keeps_ask.mpr ⟨⟨height, rfl⟩, ?_⟩))
  intro reply
  refine Task.goesOn_ok.mpr ?_
  rcases reply with (e | message) | hash
  · by_cases known : Rejection.isAlreadyKnown e.message = true
    · -- The submission goes on, but nothing new was taken.
      simp only [known, if_true]
      exact Task.learns_pure ⟨false, rfl⟩
    · simp only [known]
      refine Task.Learns.bind giveBack_learns fun _ _ _ => ?_
      exact Task.learns_fail _
  · exact nofun
  · exact Task.learns_pure ⟨true, rfl⟩

/-- The head that a submission read before it sent its transaction, and the bytes that it sent. -/
def Sent (submission : Submission) (phase : Sending) : Prop :=
  submission.hash = Keccak.hash submission.transaction.raw ∧
    ∃ taken, phase = .sent submission.submittedAt submission.transaction.raw taken

theorem attemptSubmit_learns {signer : Signer} {payload : Bytes} :
    (tracker.attemptSubmit signer payload options).Learns Sending.discipline Sent .idle := by
  unfold attemptSubmit
  have headRead : (Task.ask .blockNumber).Learns Sending.discipline
      (fun (height : Nat) after => after = .begun height) .idle := by
    refine Task.keeps_ask.mpr ⟨trivial, ?_⟩
    rintro reply height rfl
    rfl
  refine Task.Learns.bind (headRead.mapFailure asBroadcast) ?_
  rintro submittedAt _ rfl
  refine Task.Learns.bind (prepare_learns.mapFailure asBroadcast) ?_
  rintro terms _ rfl
  cases sealed : signer.signPayload payload options.appId terms with
  | error e =>
      refine Task.Learns.bind giveBack_learns fun _ _ _ => ?_
      exact Task.learns_fail e
  | ok signed =>
      refine Task.Learns.bind (broadcast_learns submittedAt) ?_
      rintro _ _ ⟨taken, rfl⟩
      exact Task.learns_pure ⟨(Signer.seal_names sealed).1, taken, rfl⟩

theorem submit_learns {signer : Signer} {payload : Bytes} :
    (tracker.submit signer payload options).Learns Sending.discipline Sent .idle := by
  unfold submit
  refine Task.keeps_bind.mpr (Task.keeps_attempt.mpr (attemptSubmit_learns.mono ?_))
  intro phase outcome ended
  refine Task.goesOn_ok.mpr ?_
  rcases outcome with (e | message) | submission
  · exact Task.Learns.bind (note_learns _) fun _ _ _ => Task.learns_fail e
  · exact nofun
  · refine Task.Learns.bind (note_learns _) ?_
    rintro _ _ rfl
    exact Task.learns_pure (ended submission rfl)

end Tracker

/-- How far the check of a transaction has come. -/
inductive Checking where
  | blank
  /-- Reported as included, and not reverted. -/
  | located (report : InclusionReport)
  /-- Deep enough in the chain to be final. -/
  | deep (report : InclusionReport)
  /-- Found at its height again afterwards. -/
  | confirmed (report : InclusionReport)

namespace Checking

/-- Every answer takes the check of a transaction one step on, or back to its start. -/
def discipline (tracker : Tracker) (hash : Hash) : Discipline Checking where
  allows _ _ := True
  after
    | _, .ask (.inclusion asked), .ok (some report) =>
        if asked = hash ∧ report.success = true then .located report else .blank
    | .located report, .ask .finalizedBlockNumber, .ok (some (height : Nat)) =>
        if tracker.finality.mode = .finalized ∧ report.blockNumber ≤ height then .deep report
        else .blank
    | .located report, .ask .blockNumber, .ok (height : Nat) =>
        if tracker.finality.mode = .confirmations ∧
            report.blockNumber + tracker.finality.confirmationBlocks ≤ height then .deep report
        else .blank
    | .deep report, .ask (.blockHash number), .ok (some block) =>
        if number = report.blockNumber ∧ block = report.blockHash then .confirmed report else .blank
    | _, .ask _, _ => .blank
    | phase, _, _ => phase

/-- A record is that of a report which the check has confirmed. -/
def Confirms (record : FinalityRecord) (phase : Checking) : Prop :=
  ∃ report, phase = .confirmed report ∧ record = .ofReport report

end Checking

namespace Tracker

open Checking

variable {phase : Checking} {tracker : Tracker} {submission : Submission}
  {report : InclusionReport}

theorem checkWindow_learns :
    (checkWindow submission).Learns (Checking.discipline tracker submission.hash)
      (fun status phase => ∀ record, status = .confirmed record → Confirms record phase) phase := by
  unfold checkWindow
  cases submission.mortalityBlocks with
  | none => exact Task.learns_pure fun record => nofun
  | some window =>
      have asked : (Task.ask .blockNumber).Learns (Checking.discipline tracker submission.hash)
          (fun _ _ => True) phase := Task.keeps_ask.mpr ⟨trivial, fun _ _ _ => trivial⟩
      refine asked.bind fun head after _ => ?_
      split
      · exact Task.learns_fail _
      · exact Task.learns_pure fun record => nofun

theorem checkDepth_learns :
    (tracker.checkDepth report.blockNumber).Learns (Checking.discipline tracker submission.hash)
      (fun verdict phase => (verdict = none → phase = .deep report) ∧
        ∀ record, verdict ≠ some (.confirmed record)) (.located report) := by
  unfold checkDepth
  cases mode : tracker.finality.mode with
  | finalized =>
      have asked : (Task.ask .finalizedBlockNumber).Learns
          (Checking.discipline tracker submission.hash)
          (fun (finalized : Option Nat) phase => ∀ height, finalized = some height →
            report.blockNumber ≤ height → phase = .deep report) (.located report) := by
        refine Task.keeps_ask.mpr ⟨trivial, ?_⟩
        rintro reply finalized rfl height rfl reached
        exact if_pos ⟨mode, reached⟩
      refine asked.bind fun finalized after told => ?_
      cases finalized with
      | none => exact Task.learns_pure ⟨nofun, fun record => nofun⟩
      | some height =>
          refine Task.learns_pure ?_
          split
          · next reached => exact ⟨fun _ => told height rfl reached, fun record => nofun⟩
          · exact ⟨nofun, fun record => nofun⟩
  | confirmations =>
      have asked : (Task.ask .blockNumber).Learns (Checking.discipline tracker submission.hash)
          (fun (head : Nat) phase =>
            report.blockNumber + tracker.finality.confirmationBlocks ≤ head → phase = .deep report)
          (.located report) := by
        refine Task.keeps_ask.mpr ⟨trivial, ?_⟩
        rintro reply head rfl reached
        exact if_pos ⟨mode, reached⟩
      refine asked.bind fun head after told => ?_
      refine Task.keeps_bind.mpr (Task.keeps_settled.mpr ?_)
      cases added : Checked.add 64 report.blockNumber tracker.finality.confirmationBlocks with
      | error fault => exact nofun
      | ok target =>
          obtain ⟨rfl, -⟩ := Checked.add_eq_ok added
          refine Task.learns_pure ?_
          split
          · next reached => exact ⟨fun _ => told reached, fun record => nofun⟩
          · exact ⟨nofun, fun record => nofun⟩

theorem checkCanonical_learns :
    (checkCanonical report).Learns (Checking.discipline tracker submission.hash)
      (fun status phase => ∀ record, status = .confirmed record → Confirms record phase)
      (.deep report) := by
  unfold checkCanonical
  have asked : (Task.ask (.blockHash report.blockNumber)).Learns
      (Checking.discipline tracker submission.hash)
      (fun (canonical : Option Hash) phase =>
        canonical = some report.blockHash → phase = .confirmed report) (.deep report) := by
    refine Task.keeps_ask.mpr ⟨trivial, ?_⟩
    rintro reply canonical rfl rfl
    exact if_pos ⟨rfl, rfl⟩
  refine asked.bind fun canonical after told => Task.learns_pure fun record verdict => ?_
  split at verdict
  · next standing =>
      cases verdict
      exact ⟨report, told standing, rfl⟩
  · cases verdict

theorem check_learns :
    (tracker.check submission).Learns (Checking.discipline tracker submission.hash)
      (fun status phase => ∀ record, status = .confirmed record → Confirms record phase) phase := by
  unfold check
  have asked : (Task.ask (.inclusion submission.hash)).Learns
      (Checking.discipline tracker submission.hash)
      (fun (found : Option InclusionReport) phase => ∀ report, found = some report →
        report.success = true → phase = .located report) phase := by
    refine Task.keeps_ask.mpr ⟨trivial, ?_⟩
    rintro reply found rfl report rfl succeeded
    exact if_pos ⟨rfl, succeeded⟩
  refine asked.bind fun found after told => ?_
  cases found with
  | none => exact checkWindow_learns
  | some report =>
      cases succeeded : report.success with
      | false =>
          simp only [succeeded]
          exact Task.learns_pure fun record => nofun
      | true =>
          obtain rfl := told report rfl succeeded
          simp only [succeeded]
          refine Task.Learns.bind checkDepth_learns fun verdict after ⟨buried, undecided⟩ => ?_
          cases verdict with
          | some status =>
              refine Task.learns_pure fun record same => ?_
              exact absurd (congrArg some same) (undecided record)
          | none =>
              obtain rfl := buried rfl
              exact checkCanonical_learns

theorem drawJitter_learns {hash : Hash} (backoff : Backoff) :
    (drawJitter backoff).Learns (Checking.discipline tracker hash) (fun _ _ => True) phase := by
  unfold drawJitter
  split
  · have drawn {most : Nat} : (Task.draw most).Learns (Checking.discipline tracker hash)
        (fun _ _ => True) phase := Task.keeps_draw.mpr ⟨trivial, fun _ _ _ => trivial⟩
    exact drawn.bind fun _ _ _ => Task.learns_pure trivial
  · exact Task.learns_pure trivial

theorem poll_learns (rounds : Nat) (backoff : Backoff) :
    (tracker.poll submission rounds backoff).Learns (Checking.discipline tracker submission.hash)
      Confirms phase := by
  -- The induction is on the rounds. A round begins in the phase that the last answer left, whichever
  -- that was, so the phase moves along.
  induction rounds generalizing phase backoff with
  | zero => exact Task.learns_fail _
  | succ rounds ih =>
      have again (phase : Checking) (ms : Nat) (backoff : Backoff) :
          (do Task.pause ms; tracker.poll submission rounds backoff).Learns
            (Checking.discipline tracker submission.hash) Confirms phase := by
        have paused : (Task.pause ms).Learns (Checking.discipline tracker submission.hash)
            (fun _ _ => True) phase := ⟨trivial, fun _ _ _ => trivial⟩
        exact paused.bind fun _ after _ => ih backoff
      unfold poll
      refine Task.keeps_bind.mpr (Task.keeps_attempt.mpr (check_learns.mono ?_))
      intro after outcome ended
      refine Task.goesOn_ok.mpr ?_
      rcases outcome with (e | message) | status
      · cases e with
        | notFound transaction => exact Task.learns_fail _
        | _ =>
            refine (drawJitter_learns backoff).bind fun jitter after _ => ?_
            refine Task.Learns.bind Task.learns_settled fun delay after _ => ?_
            cases delay with
            | none => exact Task.learns_fail _
            | some delay => exact again after delay _
      · exact nofun
      · cases status with
        | confirmed record => exact Task.learns_pure (ended _ rfl record rfl)
        | failed reason => exact Task.learns_fail _
        | pending | confirming => exact again after _ _

end Tracker

end Notary
