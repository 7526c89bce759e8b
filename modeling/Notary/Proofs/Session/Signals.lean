import Notary.Proofs.Session.Orderly

namespace Notary

/-!
Signals that are not heard. A cancel signal for a case that has its outcome changes nothing but the
signal itself: whatever is done after it is done, and answered, as it would be without it.
-/

namespace Docket

variable {σ : Type} {docket after : Docket σ} {number other : Nat}

/-- A signal and any other change of the cases can be made in either order. -/
theorem modify_cancel (docket : Docket σ) (number other : Nat)
    {change : Submission.Case → Submission.Case}
    (commutes : ∀ found : Submission.Case,
      change { found with cancelled := true } = { change found with cancelled := true }) :
    (docket.cancel number).cases.modify other change =
      ({ docket with cases := docket.cases.modify other change }.cancel number).cases := by
  refine Array.ext_getElem? fun index => ?_
  simp only [cancel, Array.getElem?_modify]
  cases docket.cases[index]? with
  | none => split <;> split <;> rfl
  | some found => split <;> split <;> simp [commutes]

theorem cancel_comm (docket : Docket σ) (number other : Nat) :
    (docket.cancel number).cancel other = (docket.cancel other).cancel number :=
  congrArg (fun cases => { docket with cases }) (docket.modify_cancel number other fun _ => rfl)

theorem setState_cancel (docket : Docket σ) (number other : Nat) (state : Submission.State) :
    (docket.cancel number).setState other state = (docket.setState other state).cancel number :=
  congrArg (fun cases => { docket with cases }) (docket.modify_cancel number other fun _ => rfl)

theorem settle_cancel (docket : Docket σ) (number other : Nat)
    (result : Except Fault FinalityRecord) :
    (docket.cancel number).settle other result =
      ((docket.settle other result).1, (docket.settle other result).2.cancel number) := by
  have registry : (docket.cancel number).registry = docket.registry := rfl
  unfold settle
  rcases result with (e | message) | record
  · simp only
    split
    · rw [setState_cancel]
    · rfl
  · rfl
  · simp only [registry]
    cases docket.registry.register (.receipt record) with
    | mk outcome registry =>
        cases outcome with
        | error e => rfl
        | ok receipt =>
            have settled := setState_cancel { docket with registry } number other (.finalized receipt)
            exact congrArg (Prod.mk _) settled

theorem file_cancel (docket : Docket σ) (submission : Submission)
    (filed : number < docket.cases.size) :
    (docket.cancel number).file submission =
      ((docket.file submission).1, (docket.file submission).2.cancel number) := by
  have pushed : (docket.cases.modify number fun found => { found with cancelled := true }).push
      (Submission.opened submission) =
      (docket.cases.push (Submission.opened submission)).modify number
        fun found => { found with cancelled := true } := by
    refine Array.ext_getElem? fun index => ?_
    simp only [Array.getElem?_push, Array.getElem?_modify, Array.size_modify]
    split
    · next last => rw [if_neg (by omega)]
    · rfl
  simp only [file, cancel, Array.size_modify, pushed]

theorem cancel_getElem? (docket : Docket σ) (number other : Nat) :
    (docket.cancel number).cases[other]? = docket.cases[other]?.map fun found =>
      { found with cancelled := found.cancelled || decide (number = other) } := by
  rw [cancel, Array.getElem?_modify]
  cases docket.cases[other]? with
  | none => split <;> rfl
  | some found => split <;> simp_all

theorem cancel_state (docket : Docket σ) (number other : Nat) :
    (docket.cancel number).state other = docket.state other := by
  unfold Docket.state find
  rw [cancel_getElem?]
  cases docket.cases[other]? <;> rfl

theorem cancel_signalled (docket : Docket σ) (differs : number ≠ other) :
    (docket.cancel number).signalled other = docket.signalled other := by
  unfold Docket.signalled
  rw [cancel_getElem?]
  cases docket.cases[other]? <;> simp [differs]

/-- A case that has its outcome does not hear a signal. -/
theorem cancel_pending? (settled : docket.state number ≠ .ok .sent) (other : Nat) :
    (docket.cancel number).pending? other = docket.pending? other := by
  unfold Docket.pending?
  rw [cancel_getElem?]
  cases stored : docket.cases[other]? with
  | none => rfl
  | some found =>
      by_cases same : number = other
      · subst same
        have outcome : found.state ≠ .sent := fun sent =>
          settled (state_eq_ok.mpr ⟨found, stored, sent⟩)
        simp [outcome]
      · simp [same]

theorem cancel_outcome? (docket : Docket σ) (number : Nat) (found : Submission.Case) (signal : Bool) :
    (docket.cancel number).outcome? { found with cancelled := signal } = docket.outcome? found := by
  unfold outcome?
  cases found.state <;> rfl

/-- Where there is nothing to wait for, the answer is the same after a signal that is not heard. -/
theorem cancel_resolve (settled : docket.state number ≠ .ok .sent)
    (idle : docket.pending? other = none) (ledger : Ledger σ) (cancelAt : Option Nat) :
    (docket.cancel number).resolve ledger other cancelAt =
      ((docket.resolve ledger other cancelAt).1, (docket.resolve ledger other cancelAt).2.1,
        (docket.resolve ledger other cancelAt).2.2.cancel number) := by
  cases stored : docket.cases[other]? with
  | none => simp only [resolve, find, cancel_getElem?, stored, Option.map_none]
  | some found =>
      have storedThere := docket.cancel_getElem? number other
      rw [stored, Option.map_some] at storedThere
      cases outcome : docket.outcome? found with
      | some answer =>
          rw [resolve_of_outcome ledger cancelAt stored outcome,
            resolve_of_outcome ledger cancelAt storedThere
              ((docket.cancel_outcome? number found _).trans outcome)]
      | none =>
          have sent : docket.state other = .ok .sent :=
            state_eq_ok.mpr ⟨found, stored, outcome?_eq_none outcome⟩
          have differs : number ≠ other := fun same => settled (same ▸ sent)
          have signal := signalled_of_idle idle sent
          rw [resolve_of_cancelled ledger cancelAt sent signal,
            resolve_of_cancelled ledger cancelAt ((docket.cancel_state number other).trans sent)
              ((docket.cancel_signalled differs).trans signal)]
          exact congrArg (fun after => (_, _, after)) ((docket.noted _).setState_cancel number other _)

end Docket

namespace Session

variable {σ : Type}

/-- The session after nothing but a cancel signal for a case. -/
def signal (session : Session σ) (number : Nat) : Session σ :=
  { session with docket := session.docket.cancel number }

theorem signal_releaseKind (session : Session σ) (number : Nat) (handle : Handle) (kind : Kind) :
    (session.signal number).releaseKind handle kind =
      ((session.releaseKind handle kind).1, (session.releaseKind handle kind).2.signal number) := rfl

/-- Whatever a request that takes no step does, it does after a signal as before it. -/
theorem signal_answer (ledger : Ledger σ) (session : Session σ) (number : Nat) {request : Request σ}
    (quick : request.Quick) :
    ((session.signal number).answer ledger request).2 =
      (session.answer ledger request).2.signal number := by
  have registry : (session.signal number).registry = session.registry := rfl
  cases request with
  | initializeSigner seed =>
      simp only [answer, initializeSigner]
      cases Seed.derive seed <;> rfl
  | cancelSubmission word =>
      simp only [answer, cancelSubmission, registry]
      cases session.registry.submission (.ofWord word) with
      | error e => rfl
      | ok other =>
          exact congrArg (fun docket => { session with docket }) (session.docket.cancel_comm number other)
  | receiptNew word =>
      simp only [answer, receiptNew, registry]
      cases session.registry.receipt (.ofWord word) <;> rfl
  | releaseSubmission word =>
      simp only [answer, releaseSubmission, signal_releaseKind]
      rcases released : session.releaseKind (.ofWord word) .submission with
        ⟨fault | signer | other | record, left⟩
      · rfl
      · rfl
      · exact congrArg (fun docket => { left with docket }) (left.docket.cancel_comm number other)
      · rfl
  | submitData | submitWithOptions | transactionReceipt | ledger => exact quick.elim
  | signMessage | submission | receipt | receiptFree | record | releaseSigner | releaseReceipt
  | registry => rfl

end Session

namespace Hall

variable {σ : Type} {hall : Hall σ} {number : Nat}

/-- The hall after nothing but a cancel signal for a case. -/
def signal (hall : Hall σ) (number : Nat) : Hall σ :=
  { hall with session := hall.session.signal number }

theorem Orderly.of_signal (orderly : (hall.signal number).Orderly) : hall.Orderly where
  alone := orderly.alone
  sent := fun other had =>
    (hall.docket.cancel_state number other).symm.trans (orderly.sent other had)

theorem signal_settle (hall : Hall σ) (number index other : Nat) (result : Except Fault FinalityRecord) :
    (hall.signal number).settle index other result =
      ((hall.settle index other result).1, (hall.settle index other result).2.signal number) := by
  have settled := (hall.docket.noted result).settle_cancel number other result
  have noted : (hall.signal number).docket.noted result = (hall.docket.noted result).cancel number := rfl
  unfold settle Desk.settle
  rw [noted, settled]
  rfl

theorem signal_file (filed : number < hall.docket.cases.size) (index : Nat)
    (submission : Submission) :
    (hall.signal number).file index submission (fun _ => .ended) =
      signal (hall.file index submission fun _ => .ended) number := by
  have filed := hall.docket.file_cancel submission filed
  have docket : (hall.signal number).docket = hall.docket.cancel number := rfl
  unfold Desk.file
  rw [docket, filed]
  rfl

theorem signal_enter (settled : hall.docket.state number ≠ .ok .sent) (ledger : Ledger σ)
    (index other : Nat) :
    (hall.signal number).enter ledger index other =
      ((hall.enter ledger index other).1, (hall.enter ledger index other).2.signal number) := by
  have docket : (hall.signal number).docket = hall.docket.cancel number := rfl
  unfold enter
  rw [docket, Docket.cancel_pending? settled]
  cases pending : hall.docket.pending? other with
  | some submission => rfl
  | none =>
      simp only [Docket.cancel_resolve settled pending]
      rfl

theorem signal_advance (filed : number < hall.docket.cases.size) (ledger : Ledger σ) (index : Nat) :
    (hall.signal number).advance ledger index =
      ((hall.advance ledger index).1, (hall.advance ledger index).2.signal number) := by
  have errands : (hall.signal number).errands = hall.errands := rfl
  unfold advance
  rw [errands]
  rcases hall.errands[index]? with _ | (stage | other | ⟨other, stage⟩ | _)
  · rfl
  · rcases stage with (⟨fault | submission⟩ | ⟨step, next⟩) | resume
    · rfl
    · exact congrArg (Prod.mk _) (signal_file filed index submission)
    · rfl
    · rfl
  · rfl
  · rcases stage with (result | ⟨step, next⟩) | resume
    · exact hall.signal_settle number index other result
    · rfl
    · rfl
  · rfl

theorem signal_breakOff {other : Nat} (differs : number ≠ other) (index : Nat) (cancelled : Bool) :
    (hall.signal number).breakOff index other cancelled =
      ((hall.breakOff index other cancelled).1,
        (hall.breakOff index other cancelled).2.signal number) := by
  have signalled : (hall.signal number).docket.signalled other = hall.docket.signalled other :=
    Docket.cancel_signalled hall.docket differs
  unfold breakOff
  rw [signalled]
  split
  · rfl
  · exact hall.signal_settle number index other _
  · exact hall.signal_settle number index other _

theorem signal_interrupt (orderly : hall.Orderly) (settled : hall.docket.state number ≠ .ok .sent)
    (index : Nat) (cancelled : Bool) :
    (hall.signal number).interrupt index cancelled =
      ((hall.interrupt index cancelled).1, (hall.interrupt index cancelled).2.signal number) := by
  have errands : (hall.signal number).errands = hall.errands := rfl
  unfold interrupt
  rw [errands]
  rcases here : hall.errands[index]? with _ | (stage | other | ⟨other, stage⟩ | _)
  · rfl
  · rfl
  · rfl
  · -- Nobody waits for a case that is settled, so the signal is not that of the waiting case.
    have differs : number ≠ other := by
      rintro rfl
      exact settled (orderly.sent number (mem_occupied here))
    rcases stage with (result | ⟨step, next⟩) | resume
    · rfl
    · exact signal_breakOff differs index cancelled
    · exact signal_breakOff differs index cancelled
  · rfl

theorem signal_request (ledger : Ledger σ) (hall : Hall σ) (number : Nat)
    (request : Session.Request σ) :
    (hall.signal number).request ledger request = (hall.request ledger request).signal number := by
  have shared : Desk.request ledger (hall.signal number) request =
      signal (Desk.request ledger hall request) number := by
    obtain ⟨quick, answered⟩ | idle := Desk.request_cases request
    · rw [answered, answered]
      exact congrArg (Desk.mk · hall.errands) (hall.session.signal_answer ledger number quick)
    · rw [idle, idle]
  cases request with
  | ledger change => rfl
  | _ => exact shared

/-- After a signal for a case that has its outcome, everything happens as it would without it. -/
theorem signal_act (orderly : hall.Orderly) (filed : number < hall.docket.cases.size)
    (settled : hall.docket.state number ≠ .ok .sent) (ledger : Ledger σ) (act : Act σ) :
    (hall.signal number).act ledger act =
      ((hall.act ledger act).1, (hall.act ledger act).2.signal number) := by
  have registry : (hall.signal number).session.registry = hall.session.registry := rfl
  have errands : (hall.signal number).errands = hall.errands := rfl
  have occupied : (hall.signal number).occupied = hall.occupied := rfl
  cases act with
  | submit word payload options =>
      simp only [act, registry]
      cases hall.session.registry.signer (.ofWord word) <;> rfl
  | call word =>
      simp only [act, registry]
      cases hall.session.registry.submission (.ofWord word) <;> rfl
  | callBy other => rfl
  | grant index =>
      simp only [act, grant, errands, occupied]
      split
      · split
        · rfl
        · exact signal_enter settled ledger index _
      · rfl
  | advance index => exact signal_advance filed ledger index
  | interrupt index cancelled => exact signal_interrupt orderly settled index cancelled
  | request request => exact congrArg (Prod.mk _) (hall.signal_request ledger number request)

/-- Nothing that happens after a signal for a settled case tells that it was given. -/
theorem signal_run (orderly : hall.Orderly) {outcome : Submission.State}
    (stands : hall.docket.state number = .ok outcome) (unsent : outcome ≠ .sent)
    (ledger : Ledger σ) (acts : List (Act σ)) :
    ((hall.signal number).run ledger acts).1.map (·.event) =
        (hall.run ledger acts).1.map (·.event) ∧
      ((hall.signal number).run ledger acts).2 = (hall.run ledger acts).2.signal number := by
  induction acts generalizing hall with
  | nil => exact ⟨rfl, rfl⟩
  | cons act rest ih =>
      obtain ⟨found, stored, -⟩ := Docket.state_eq_ok.mp stands
      have filed := (Array.getElem?_eq_some_iff.mp stored).1
      have settled : hall.docket.state number ≠ .ok .sent := fun sent =>
        unsent (Except.ok.inj (stands.symm.trans sent))
      obtain ⟨⟨opens, goesOn⟩, orderlyAfter⟩ := orderly.act ledger act
      obtain ⟨events, last⟩ := ih orderlyAfter (goesOn.outcome stands unsent)
      simp only [run] at events last ⊢
      simp only [Schedule.run, signal_act orderly filed settled, List.map_cons]
      exact ⟨congrArg (List.cons _) events, last⟩

end Hall

end Notary
