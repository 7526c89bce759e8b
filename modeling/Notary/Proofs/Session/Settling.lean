import Notary.Proofs.Registry.History
import Notary.Docket

namespace Notary.Docket

/-!
Resolving a case. A settled case is answered from its state alone; one that is not settled is waited
for, and the wait settles it with a receipt or with a terminal failure, or leaves it as it was.
-/

variable {σ : Type}

/-- How a case is resolved: the answer, and the docket that is left. -/
inductive Resolution (docket : Docket σ) (number : Nat) : Except Fault Handle → Docket σ → Prop where
  | unknown (absent : docket.cases[number]? = none) :
      Resolution docket number (.error (.failure (.invalidHandle number))) docket
  | settled (found : Submission.Case) (outcome : Except Error Handle)
      (stored : docket.cases[number]? = some found)
      (settled : docket.outcome? found = some outcome) :
      Resolution docket number (outcome.mapError .failure) docket
  | published (found : Submission.Case) (world : World σ) (record : FinalityRecord)
      (receipt : Handle) (registry : Registry) (stored : docket.cases[number]? = some found)
      (sent : found.state = .sent)
      (registered : docket.registry.register (.receipt record) = (.ok receipt, registry)) :
      Resolution docket number (.ok receipt)
        ({ docket with world, registry }.setState number (.finalized receipt))
  | failed (found : Submission.Case) (world : World σ) (e : Error)
      (stored : docket.cases[number]? = some found) (sent : found.state = .sent)
      (terminal : Submission.isTerminal e = true) :
      Resolution docket number (.error (.failure e))
        ({ docket with world }.setState number (.failed e))
  | postponed (found : Submission.Case) (world : World σ) (fault : Fault)
      (stored : docket.cases[number]? = some found) (sent : found.state = .sent)
      (transient : ∀ e, fault = .failure e → Submission.isTerminal e = false) :
      Resolution docket number (.error fault) { docket with world }

variable {docket : Docket σ} {number : Nat} {found : Submission.Case} {outcome : Except Error Handle}

theorem resolve_of_outcome (ledger : Ledger σ) (cancelAt : Option Nat)
    (stored : docket.cases[number]? = some found) (settled : docket.outcome? found = some outcome) :
    docket.resolve ledger number cancelAt = (outcome.mapError .failure, 0, docket) := by
  unfold resolve find
  simp only [stored, settled]
  cases outcome <;> rfl

theorem outcome?_eq_none (unsettled : docket.outcome? found = none) : found.state = .sent := by
  unfold outcome? at unsettled
  cases state : found.state with
  | sent => rfl
  | finalized receipt =>
      simp only [state] at unsettled
      split at unsettled <;> cases unsettled
  | failed e => simp [state] at unsettled

theorem outcome?_finalized {receipt : Handle} {record : FinalityRecord}
    (finalized : found.state = .finalized receipt)
    (stored : docket.registry.arena.get? receipt = some (.receipt record)) :
    docket.outcome? found = some (.ok receipt) := by
  simp only [outcome?, finalized, Registry.receipt_eq_ok.mpr stored]

theorem outcome?_released {receipt : Handle} (finalized : found.state = .finalized receipt)
    (absent : docket.registry.arena.get? receipt = none) :
    docket.outcome? found = some (.error (.alreadyResolved found.submission.hash.text)) := by
  simp only [outcome?, finalized, Registry.receipt_eq_error absent]

theorem outcome?_failed {e : Error} (failed : found.state = .failed e) :
    docket.outcome? found = some (.error e) := by
  simp only [outcome?, failed]

theorem outcome?_eq_receipt {receipt : Handle} (settled : docket.outcome? found = some (.ok receipt)) :
    found.state = .finalized receipt ∧
      ∃ record, docket.registry.arena.get? receipt = some (.receipt record) := by
  unfold outcome? at settled
  cases state : found.state with
  | sent => simp [state] at settled
  | failed e => simp [state] at settled
  | finalized other =>
      cases held : docket.registry.receipt other with
      | error e => simp [state, held] at settled
      | ok record =>
          simp only [state, held, Option.some.injEq, Except.ok.injEq] at settled
          subst settled
          exact ⟨rfl, record, Registry.receipt_eq_ok.mp held⟩

/-- A failure in the outcome is that of the case, or tells that its receipt is gone. -/
theorem outcome?_eq_error {e : Error} (settled : docket.outcome? found = some (.error e)) :
    found.state = .failed e ∨ e = .alreadyResolved found.submission.hash.text := by
  unfold outcome? at settled
  cases state : found.state with
  | sent => simp [state] at settled
  | failed other =>
      simp only [state, Option.some.injEq, Except.error.injEq] at settled
      exact .inl (settled ▸ rfl)
  | finalized receipt =>
      cases held : docket.registry.receipt receipt with
      | ok record => simp [state, held] at settled
      | error other =>
          simp only [state, held, Option.some.injEq, Except.error.injEq] at settled
          exact .inr settled.symm

theorem await_eq (ledger : Ledger σ) (cancelAt : Option Nat)
    (stored : docket.cases[number]? = some found) :
    ∃ result ms world, docket.await ledger number cancelAt = (result, ms, { docket with world }) := by
  unfold await find
  simp only [stored]
  exact ⟨_, _, _, rfl⟩

theorem settle_world (number : Nat) (result : Except Fault FinalityRecord) :
    (docket.settle number result).2.world = docket.world := by
  unfold settle
  rcases result with (e | message) | record
  · simp only
    split <;> rfl
  · rfl
  · simp only
    split <;> rfl

theorem settle_resolution {world : World σ} (result : Except Fault FinalityRecord)
    (stored : docket.cases[number]? = some found) (sent : found.state = .sent) :
    docket.Resolution number ({ docket with world }.settle number result).1
      ({ docket with world }.settle number result).2 := by
  unfold settle
  cases result with
  | ok record =>
      cases registered : docket.registry.register (.receipt record) with
      | mk outcome registry =>
          cases outcome with
          | ok receipt =>
              simp only [registered]
              exact .published found world record receipt registry stored sent registered
          | error e =>
              obtain ⟨rfl, rfl⟩ := Registry.register_error registered
              simp only [registered]
              exact .postponed found world _ stored sent fun e same => by cases same; rfl
  | error fault =>
      cases fault with
      | breakdown message => exact .postponed found world _ stored sent fun e => nofun
      | failure e =>
          by_cases terminal : Submission.isTerminal e = true
          · simp only [terminal, if_true]
            exact .failed found world e stored sent terminal
          · simp only [terminal]
            refine .postponed found world _ stored sent fun other same => ?_
            cases same
            simpa using terminal

theorem resolve_resolution (ledger : Ledger σ) (docket : Docket σ) (number : Nat)
    (cancelAt : Option Nat) :
    docket.Resolution number (docket.resolve ledger number cancelAt).1
      (docket.resolve ledger number cancelAt).2.2 := by
  cases stored : docket.cases[number]? with
  | none =>
      simp only [resolve, find, stored]
      exact .unknown stored
  | some found =>
      cases settled : docket.outcome? found with
      | some outcome =>
          rw [resolve_of_outcome ledger cancelAt stored settled]
          exact .settled found outcome stored settled
      | none =>
          obtain ⟨result, ms, world, awaited⟩ := await_eq ledger cancelAt stored
          simp only [resolve, find, stored, settled, awaited]
          exact settle_resolution result stored (outcome?_eq_none settled)

theorem setState_getElem? {state : Submission.State} (stored : docket.cases[number]? = some found) :
    (docket.setState number state).cases[number]? = some { found with state } := by
  simp [setState, Array.getElem?_modify, stored]

namespace Resolution

variable {after : Docket σ} {reply : Except Fault Handle}

/-- An answer with a receipt leaves the case settled with it, and the receipt in the registry. -/
theorem receipt_stands {receipt : Handle} (resolution : docket.Resolution number reply after)
    (wellFormed : docket.registry.arena.WellFormed) (answered : reply = .ok receipt) :
    ∃ found record, after.cases[number]? = some found ∧ found.state = .finalized receipt ∧
      after.registry.arena.get? receipt = some (.receipt record) := by
  cases resolution with
  | unknown | failed | postponed => cases answered
  | settled found outcome stored settled =>
      cases outcome with
      | error e => cases answered
      | ok other =>
          cases answered
          obtain ⟨state, record, held⟩ := outcome?_eq_receipt settled
          exact ⟨found, record, stored, state, held⟩
  | published found world record other registry stored sent registered =>
      cases answered
      have placed := Registry.register_ok wellFormed registered
      exact ⟨_, record, setState_getElem? stored, rfl, (placed.filled wellFormed).get?_self⟩

/-- An answer with a terminal failure leaves the case settled with it. -/
theorem failure_stands {e : Error} (resolution : docket.Resolution number reply after)
    (answered : reply = .error (.failure e)) (terminal : Submission.isTerminal e = true) :
    ∃ found, after.cases[number]? = some found ∧ found.state = .failed e := by
  cases resolution with
  | unknown =>
      cases answered
      cases terminal
  | published => cases answered
  | settled found outcome stored settled =>
      cases outcome with
      | ok other => cases answered
      | error other =>
          cases answered
          obtain state | rfl := outcome?_eq_error settled
          · exact ⟨found, stored, state⟩
          · cases terminal
  | failed found world other stored sent settles =>
      cases answered
      exact ⟨_, setState_getElem? stored, rfl⟩
  | postponed found world fault stored sent transient =>
      cases answered
      rw [transient e rfl] at terminal
      cases terminal

/-- Only what publishes a receipt touches the registry. -/
theorem registry_eq (resolution : docket.Resolution number reply after) :
    after.registry = docket.registry ∨ ∃ record receipt, reply = .ok receipt ∧
      docket.registry.register (.receipt record) = (.ok receipt, after.registry) := by
  cases resolution with
  | unknown | settled | failed | postponed => exact .inl rfl
  | published found world record receipt registry stored sent registered =>
      exact .inr ⟨record, receipt, rfl, registered⟩

/-- An answer that the registry is full leaves the case unsettled, if settled failures are terminal. -/
theorem full_sent (resolution : docket.Resolution number reply after)
    (terminal : ∀ found e, docket.cases[number]? = some found → found.state = .failed e →
      Submission.isTerminal e = true)
    (full : reply = .error (.failure .registryFull)) : after.state number = .ok .sent := by
  cases resolution with
  | unknown | published => cases full
  | settled found outcome stored settled =>
      cases outcome with
      | ok receipt => cases full
      | error e =>
          cases full
          obtain state | absurd := outcome?_eq_error settled
          · cases terminal found _ stored state
          · cases absurd
  | failed found world e stored sent settles =>
      cases full
      cases settles
  | postponed found world fault stored sent transient =>
      simp only [state, find, stored, Except.map, sent]

end Resolution

/-- A submission files a case at most, and does not come near the registry. -/
theorem submit_files (ledger : Ledger σ) (signer : Signer) (payload : Bytes)
    (options : SubmitOptions) (docket : Docket σ) :
    (docket.submit ledger signer payload options).2.2.registry = docket.registry ∧
      ((docket.submit ledger signer payload options).2.2.cases = docket.cases ∨
        ∃ submission, (docket.submit ledger signer payload options).2.2.cases =
          docket.cases.push (Submission.opened submission)) := by
  unfold submit
  cases performed : docket.perform ledger (docket.tracker.submit signer payload options) with
  | mk result rest =>
      obtain ⟨ms, after⟩ := rest
      obtain ⟨-, rfl⟩ := Prod.mk.inj (Prod.mk.inj performed).2
      cases result with
      | ok submission => exact ⟨rfl, .inr ⟨submission, rfl⟩⟩
      | error fault => exact ⟨rfl, .inl rfl⟩

end Notary.Docket
