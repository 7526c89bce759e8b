import Notary.Proofs.Session.Settling

namespace Notary

/-!
What there is to wait for in a case. Nothing is asked for one that has its outcome, nor for one that was
cancelled before it had one, which is settled by that.
-/

namespace Docket

variable {σ : Type}

/-- The docket with the result of a wait counted. -/
def noted (docket : Docket σ) (result : Except Fault FinalityRecord) : Docket σ :=
  { docket with
    world := { docket.world with
      metrics := Tracker.noteResolution result docket.world.metrics } }

/-- What there is to wait for in a case: nothing if it is settled or cancelled. -/
def pending? (docket : Docket σ) (number : Nat) : Option Submission :=
  match docket.cases[number]? with
  | none => none
  | some found =>
      if found.state = .sent ∧ found.cancelled = false then some found.submission else none

def signalled (docket : Docket σ) (number : Nat) : Bool :=
  match docket.cases[number]? with
  | none => false
  | some found => found.cancelled

variable {docket : Docket σ} {number : Nat}

theorem state_eq_ok {state : Submission.State} :
    docket.state number = .ok state ↔
      ∃ found, docket.cases[number]? = some found ∧ found.state = state := by
  unfold Docket.state find
  cases docket.cases[number]? with
  | none => exact ⟨nofun, nofun⟩
  | some found => simp [Except.map]

theorem pending?_eq_some {submission : Submission}
    (pending : docket.pending? number = some submission) :
    ∃ found, docket.cases[number]? = some found ∧ found.state = .sent ∧ found.cancelled = false ∧
      found.submission = submission := by
  unfold pending? at pending
  cases stored : docket.cases[number]? with
  | none => simp [stored] at pending
  | some found =>
      simp only [stored, Option.ite_none_right_eq_some, Option.some.injEq] at pending
      exact ⟨found, rfl, pending.1.1, pending.1.2, pending.2⟩

/-- What is pending is waited for, and settled by the result. -/
theorem resolve_of_pending {submission : Submission}
    (pending : docket.pending? number = some submission) (ledger : Ledger σ)
    (cancelAt : Option Nat) :
    docket.resolve ledger number cancelAt =
      let (result, ms, world) := docket.tracker.wait ledger submission cancelAt docket.world
      let (answer, after) := ({ docket with world }.noted result).settle number result
      (answer, ms, after) := by
  obtain ⟨found, stored, sent, unsignalled, rfl⟩ := pending?_eq_some pending
  have unsettled : docket.outcome? found = none := by simp only [outcome?, sent]
  simp only [resolve, await, find, stored, unsettled, Tracker.awaitFinality, unsignalled]
  rfl

theorem pending?_of_signalled (signal : docket.signalled number = true) :
    docket.pending? number = none := by
  unfold signalled at signal
  unfold pending?
  cases stored : docket.cases[number]? with
  | none => rfl
  | some found =>
      simp only [stored] at signal
      simp [signal]

/-- The docket with a case that its cancel signal settled. -/
def voided (docket : Docket σ) (number : Nat) : Docket σ :=
  (docket.noted (.error (.failure .cancelled))).setState number (.failed .cancelled)

/-- An open case that was cancelled is settled by that, and nothing is asked. -/
theorem resolve_of_cancelled (ledger : Ledger σ) (cancelAt : Option Nat)
    (sent : docket.state number = .ok .sent) (signal : docket.signalled number = true) :
    docket.resolve ledger number cancelAt =
      (.error (.failure .cancelled), 0, docket.voided number) := by
  obtain ⟨found, stored, sent⟩ := state_eq_ok.mp sent
  have unsettled : docket.outcome? found = none := by simp only [outcome?, sent]
  simp only [Docket.signalled, stored] at signal
  simp only [resolve, await, find, stored, unsettled, Tracker.awaitFinality, signal, if_true]
  rfl

/-- Where there is nothing to wait for though the case is open, it was cancelled. -/
theorem signalled_of_idle (idle : docket.pending? number = none)
    (sent : docket.state number = .ok .sent) : docket.signalled number = true := by
  obtain ⟨found, stored, sent⟩ := state_eq_ok.mp sent
  simp only [pending?, stored, sent, true_and, ite_eq_right_iff, reduceCtorEq, imp_false,
    Bool.not_eq_false] at idle
  simp only [Docket.signalled, stored, idle]

/-- A case that is not open is answered from its outcome, and nothing is asked. -/
theorem resolve_of_not_sent (settled : docket.state number ≠ .ok .sent) :
    ∃ answer, ∀ (ledger : Ledger σ) (cancelAt : Option Nat),
      docket.resolve ledger number cancelAt = (answer, 0, docket) := by
  cases stored : docket.cases[number]? with
  | none =>
      refine ⟨.error (.failure (.invalidHandle number)), fun ledger cancelAt => ?_⟩
      simp only [resolve, find, stored]
  | some found =>
      cases outcome : docket.outcome? found with
      | some answer => exact ⟨_, fun ledger cancelAt => resolve_of_outcome ledger cancelAt stored outcome⟩
      | none =>
          exact absurd (state_eq_ok.mpr ⟨found, stored, outcome?_eq_none outcome⟩) settled

end Docket

end Notary
