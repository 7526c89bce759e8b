import Notary.Proofs.Program.Answered
import Notary.Tracker.Finality

namespace Notary.Tracker

/-!
The courses that a check can take, by what the ledger replies to the calls that a check can make.
-/

section Replies

variable (tracker : Tracker) (submission : Submission) (reply : (step : Step) → step.Reply)

def inclusionReply : Except Fault (Option InclusionReport) :=
  reply (.ask (.inclusion submission.hash))

def headReply : Except Fault Nat :=
  reply (.ask .blockNumber)

def finalizedReply : Except Fault (Option Nat) :=
  reply (.ask .finalizedBlockNumber)

def canonicalReply (height : Nat) : Except Fault (Option Hash) :=
  reply (.ask (.blockHash height))

def Reverts (report : InclusionReport) : Prop :=
  inclusionReply submission reply = .ok (some report) ∧ report.success = false

def Succeeds (report : InclusionReport) : Prop :=
  inclusionReply submission reply = .ok (some report) ∧ report.success = true

/-- The transaction is not included, and the head has passed its window. -/
def Expired : Prop :=
  inclusionReply submission reply = .ok none ∧ ∃ window head,
    submission.mortalityBlocks = some window ∧ headReply reply = .ok head ∧
      min (submission.submittedAt + window) (Checked.limit 64 - 1) < head

/-- The call that tells how far the chain has come towards making a block final. -/
def depthCall : Call :=
  match tracker.finality.mode with
  | .finalized => .finalizedBlockNumber
  | .confirmations => .blockNumber

/-- How far the head must have passed a block that counts as final. -/
def depth (lag : Nat) : Nat :=
  match tracker.finality.mode with
  | .finalized => lag
  | .confirmations => tracker.finality.confirmationBlocks

def Deep (height : Nat) : Prop :=
  match tracker.finality.mode with
  | .finalized => ∃ head, finalizedReply reply = .ok (some head) ∧ height ≤ head
  | .confirmations => ∃ head, headReply reply = .ok head ∧
      height + tracker.finality.confirmationBlocks ≤ head

/-- A block at a height is not final before `current` has reached `target`. -/
def Shallow (height current target : Nat) : Prop :=
  match tracker.finality.mode with
  | .finalized => ∃ finalized, finalizedReply reply = .ok finalized ∧
      (∀ head, finalized = some head → head < height) ∧ current = finalized.getD 0 ∧ target = height
  | .confirmations => headReply reply = .ok current ∧ current < target ∧
      target = height + tracker.finality.confirmationBlocks

def InCanon (report : InclusionReport) : Prop :=
  canonicalReply reply report.blockNumber = .ok (some report.blockHash)

/-- The height at which the block would be confirmed does not fit its word. -/
def Overflows : Prop :=
  tracker.finality.mode = .confirmations ∧ ∃ report head, Succeeds submission reply report ∧
    headReply reply = .ok head ∧
      Checked.limit 64 ≤ report.blockNumber + tracker.finality.confirmationBlocks

inductive Course : List Step → Except Fault Status → Prop where
  | unreported (fault : Fault) (replied : inclusionReply submission reply = .error fault) :
      Course [.ask (.inclusion submission.hash)] (.error fault)
  | endless (absent : inclusionReply submission reply = .ok none)
      (unbounded : submission.mortalityBlocks = none) :
      Course [.ask (.inclusion submission.hash)] (.ok .pending)
  | headless (absent : inclusionReply submission reply = .ok none) (window : Nat)
      (bounded : submission.mortalityBlocks = some window) (fault : Fault)
      (replied : headReply reply = .error fault) :
      Course [.ask (.inclusion submission.hash), .ask .blockNumber] (.error fault)
  | expired (absent : inclusionReply submission reply = .ok none) (window : Nat)
      (bounded : submission.mortalityBlocks = some window) (head : Nat)
      (replied : headReply reply = .ok head)
      (passed : Checked.saturatingAdd 64 submission.submittedAt window < head) :
      Course [.ask (.inclusion submission.hash), .ask .blockNumber]
        (.error (.failure (.notFound submission.hash.text)))
  | waiting (absent : inclusionReply submission reply = .ok none) (window : Nat)
      (bounded : submission.mortalityBlocks = some window) (head : Nat)
      (replied : headReply reply = .ok head)
      (within : ¬ Checked.saturatingAdd 64 submission.submittedAt window < head) :
      Course [.ask (.inclusion submission.hash), .ask .blockNumber] (.ok .pending)
  | reverted (report : InclusionReport) (reverts : Reverts submission reply report) :
      Course [.ask (.inclusion submission.hash)]
        (.ok (.failed (revertText submission.hash report.blockNumber)))
  | depthless (report : InclusionReport) (succeeds : Succeeds submission reply report) (fault : Fault)
      (replied : reply (.ask tracker.depthCall) = .error fault) :
      Course [.ask (.inclusion submission.hash), .ask tracker.depthCall] (.error fault)
  | shallow (report : InclusionReport) (succeeds : Succeeds submission reply report)
      (current target : Nat) (shallow : tracker.Shallow reply report.blockNumber current target) :
      Course [.ask (.inclusion submission.hash), .ask tracker.depthCall]
        (.ok (.confirming current target))
  | hashless (report : InclusionReport) (succeeds : Succeeds submission reply report)
      (deep : tracker.Deep reply report.blockNumber) (fault : Fault)
      (replied : canonicalReply reply report.blockNumber = .error fault) :
      Course [.ask (.inclusion submission.hash), .ask tracker.depthCall,
        .ask (.blockHash report.blockNumber)] (.error fault)
  | confirmed (report : InclusionReport) (succeeds : Succeeds submission reply report)
      (deep : tracker.Deep reply report.blockNumber) (stands : InCanon reply report) :
      Course [.ask (.inclusion submission.hash), .ask tracker.depthCall,
        .ask (.blockHash report.blockNumber)] (.ok (.confirmed (.ofReport report)))
  | replaced (report : InclusionReport) (succeeds : Succeeds submission reply report)
      (deep : tracker.Deep reply report.blockNumber) (canonical : Option Hash)
      (replied : canonicalReply reply report.blockNumber = .ok canonical)
      (differs : canonical ≠ some report.blockHash) :
      Course [.ask (.inclusion submission.hash), .ask tracker.depthCall,
        .ask (.blockHash report.blockNumber)] (.ok .pending)

inductive Depth (height : Nat) : Except Fault (Option Status) → Prop where
  | unknown (fault : Fault) (replied : reply (.ask tracker.depthCall) = .error fault) :
      Depth height (.error fault)
  | overflow (mode : tracker.finality.mode = .confirmations) (head : Nat)
      (replied : headReply reply = .ok head)
      (wide : Checked.limit 64 ≤ height + tracker.finality.confirmationBlocks) :
      Depth height (.error (.breakdown (some "attempt to add with overflow")))
  | shallow (current target : Nat) (shallow : tracker.Shallow reply height current target) :
      Depth height (.ok (some (.confirming current target)))
  | deep (deep : tracker.Deep reply height) : Depth height (.ok none)

end Replies

variable {tracker : Tracker} {submission : Submission} {reply : (step : Step) → step.Reply}
  {report other : InclusionReport} {height current target now goal : Nat} {steps : List Step}
  {outcome : Except Fault Status} {fault : Fault}

theorem checkWindow_course (absent : inclusionReply submission reply = .ok none) :
    ∃ steps outcome, (checkWindow submission).answered reply = (steps, outcome) ∧
      tracker.Course submission reply (.ask (.inclusion submission.hash) :: steps) outcome := by
  unfold checkWindow
  cases bounded : submission.mortalityBlocks with
  | none => exact ⟨[], .ok .pending, rfl, .endless absent bounded⟩
  | some window =>
      cases replied : headReply reply with
      | error fault =>
          exact ⟨_, _, Task.answered_bind_error (Task.answered_ask replied),
            .headless absent window bounded fault replied⟩
      | ok head =>
          by_cases passed : Checked.saturatingAdd 64 submission.submittedAt window < head
          · refine ⟨[.ask .blockNumber], _, Task.answered_bind (Task.answered_ask replied) ?_,
              .expired absent window bounded head replied passed⟩
            rw [if_pos passed]
            rfl
          · refine ⟨[.ask .blockNumber], _, Task.answered_bind (Task.answered_ask replied) ?_,
              .waiting absent window bounded head replied passed⟩
            rw [if_neg passed]
            rfl

theorem checkDepth_depth (tracker : Tracker) (reply : (step : Step) → step.Reply) (height : Nat) :
    ∃ outcome, (tracker.checkDepth height).answered reply = ([.ask tracker.depthCall], outcome) ∧
      tracker.Depth reply height outcome := by
  unfold checkDepth
  cases mode : tracker.finality.mode with
  | finalized =>
      have asked : tracker.depthCall = .finalizedBlockNumber := by simp only [depthCall, mode]
      rw [asked]
      cases replied : finalizedReply reply with
      | error fault =>
          exact ⟨_, Task.answered_bind_error (Task.answered_ask replied),
            .unknown fault (by rw [asked]; exact replied)⟩
      | ok finalized =>
          cases finalized with
          | none =>
              refine ⟨_, Task.answered_bind (Task.answered_ask replied) rfl, .shallow 0 height ?_⟩
              simp only [Shallow, mode]
              exact ⟨none, replied, nofun, rfl, trivial⟩
          | some head =>
              refine ⟨_, Task.answered_bind (Task.answered_ask replied) rfl, ?_⟩
              by_cases reached : height ≤ head
              · rw [if_pos reached]
                refine .deep ?_
                simp only [Deep, mode]
                exact ⟨head, replied, reached⟩
              · rw [if_neg reached]
                refine .shallow head height ?_
                simp only [Shallow, mode]
                exact ⟨some head, replied, by simpa using reached, rfl, trivial⟩
  | confirmations =>
      have asked : tracker.depthCall = .blockNumber := by simp only [depthCall, mode]
      rw [asked]
      cases replied : headReply reply with
      | error fault =>
          exact ⟨_, Task.answered_bind_error (Task.answered_ask replied),
            .unknown fault (by rw [asked]; exact replied)⟩
      | ok head =>
          by_cases fits : height + tracker.finality.confirmationBlocks < Checked.limit 64
          · have added : Checked.add 64 height tracker.finality.confirmationBlocks =
                .ok (height + tracker.finality.confirmationBlocks) := if_pos fits
            rw [added]
            refine ⟨_, Task.answered_bind (Task.answered_ask replied) rfl, ?_⟩
            by_cases reached : height + tracker.finality.confirmationBlocks ≤ head
            · rw [if_pos reached]
              refine .deep ?_
              simp only [Deep, mode]
              exact ⟨head, replied, reached⟩
            · rw [if_neg reached]
              refine .shallow head _ ?_
              simp only [Shallow, mode]
              exact ⟨replied, by omega, trivial⟩
          · have broken : Checked.add 64 height tracker.finality.confirmationBlocks =
                .error (.breakdown (some "attempt to add with overflow")) := if_neg fits
            rw [broken]
            exact ⟨_, Task.answered_bind (Task.answered_ask replied) rfl,
              .overflow mode head replied (Nat.not_lt.mp fits)⟩

theorem checkCanonical_course (succeeds : Succeeds submission reply report)
    (deep : tracker.Deep reply report.blockNumber) :
    ∃ steps outcome, (checkCanonical report).answered reply = (steps, outcome) ∧
      tracker.Course submission reply
        (.ask (.inclusion submission.hash) :: .ask tracker.depthCall :: steps) outcome := by
  unfold checkCanonical
  cases replied : canonicalReply reply report.blockNumber with
  | error fault =>
      exact ⟨_, _, Task.answered_bind_error (Task.answered_ask replied),
        .hashless report succeeds deep fault replied⟩
  | ok canonical =>
      refine ⟨_, _, Task.answered_bind (Task.answered_ask replied) rfl, ?_⟩
      by_cases stands : canonical = some report.blockHash
      · rw [if_pos stands]
        subst stands
        exact .confirmed report succeeds deep replied
      · rw [if_neg stands]
        exact .replaced report succeeds deep canonical replied stands

/-- The check breaks down, having asked for the head. -/
def Overflowed (tracker : Tracker) (submission : Submission) (reply : (step : Step) → step.Reply)
    (outcome : Except Fault Status) : Prop :=
  tracker.Overflows submission reply ∧
    outcome = .error (.breakdown (some "attempt to add with overflow"))

theorem checkIncluded_course (tracker : Tracker) (succeeds : Succeeds submission reply report) :
    ∃ steps outcome,
      (do
        match ← tracker.checkDepth report.blockNumber with
        | some status => return status
        | none => checkCanonical report : Task Status).answered reply = (steps, outcome) ∧
      (tracker.Course submission reply (.ask (.inclusion submission.hash) :: steps) outcome ∨
        tracker.Overflowed submission reply outcome) := by
  obtain ⟨depth, asked, reached⟩ := checkDepth_depth tracker reply report.blockNumber
  cases reached with
  | unknown fault replied =>
      exact ⟨_, _, Task.answered_bind_error asked, .inl (.depthless report succeeds fault replied)⟩
  | overflow mode head replied wide =>
      exact ⟨_, _, Task.answered_bind_error asked,
        .inr ⟨⟨mode, report, head, succeeds, replied, wide⟩, rfl⟩⟩
  | shallow current target shallow =>
      exact ⟨_, _, Task.answered_bind asked rfl,
        .inl (.shallow report succeeds current target shallow)⟩
  | deep deep =>
      obtain ⟨steps, outcome, ended, course⟩ := checkCanonical_course succeeds deep
      exact ⟨_, _, Task.answered_bind asked ended, .inl course⟩

theorem check_course (tracker : Tracker) (submission : Submission)
    (reply : (step : Step) → step.Reply) :
    tracker.Course submission reply ((tracker.check submission).answered reply).1
        ((tracker.check submission).answered reply).2 ∨
      tracker.Overflowed submission reply ((tracker.check submission).answered reply).2 := by
  suffices taken : ∃ steps outcome, (tracker.check submission).answered reply = (steps, outcome) ∧
      (tracker.Course submission reply steps outcome ∨
        tracker.Overflowed submission reply outcome) by
    obtain ⟨steps, outcome, ended, course⟩ := taken
    rw [ended]
    exact course
  unfold check
  cases replied : inclusionReply submission reply with
  | error fault =>
      exact ⟨_, _, Task.answered_bind_error (Task.answered_ask replied),
        .inl (.unreported fault replied)⟩
  | ok found =>
      cases found with
      | none =>
          obtain ⟨steps, outcome, ended, course⟩ := checkWindow_course replied
          exact ⟨_, _, Task.answered_bind (Task.answered_ask replied) ended, .inl course⟩
      | some report =>
          cases success : report.success with
          | false =>
              refine ⟨_, _, Task.answered_bind (Task.answered_ask replied) ?_,
                .inl (.reverted report ⟨replied, success⟩)⟩
              simp only [success]
              rfl
          | true =>
              have succeeds : Succeeds submission reply report := ⟨replied, success⟩
              obtain ⟨steps, outcome, ended, course⟩ := checkIncluded_course tracker succeeds
              refine ⟨_, _, Task.answered_bind (Task.answered_ask replied) ?_, course⟩
              simp only [success]
              exact ended

end Notary.Tracker
