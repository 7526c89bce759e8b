import Notary.Proofs.Receipts.Bureau

namespace Notary

/-!
The operations of a session are schedules of the bureau: a submission, and a wait for a receipt with its
deadline and its cancel signal, that nothing interrupts.
-/

variable [Chain.Surroundings]

theorem World.start_waiting {world : World Chain} {step : Step}
    (waits : (world.start Chain.ledger step).delay ≠ 0) :
    (world.start Chain.ledger step).state = world := by
  cases step with
  | ask call => exact absurd rfl waits
  | reserve | release | pause | draw | note => rfl

namespace Bureau

open Schedule (Leads)

variable {after : Bureau} {event : Event} {session : Session Chain} {number : Nat}

theorem submitting_leads (program : Program (Except Fault Submission)) (now : Nat)
    (world : World Chain)
    (rest : Leads act ⟨session.onWorld (program.runAll Chain.ledger now world).2.2,
      [.submitting (.done (program.runAll Chain.ledger now world).1)]⟩ event after) :
    Leads act ⟨session.onWorld world, [.submitting program]⟩ event after := by
  induction program generalizing now world with
  | done result => exact rest
  | step step next ih =>
      exact .act (.advance 0) (ih (world.serve Chain.ledger step).1
        (now + (world.start Chain.ledger step).delay) _ rest)

/-- A submission by a session alone is a schedule of the bureau. -/
theorem submitWithOptions_leads {word : Int32} {signer : Signer}
    (named : session.registry.signer (.ofWord word) = .ok signer) (payload : Bytes)
    (options : SubmitOptions) :
    ∃ errands, Leads act ⟨session, []⟩ .quiet
      ⟨(session.submitWithOptions Chain.ledger (.ofWord word) payload options).2, errands⟩ := by
  let program := (session.docket.tracker.submit signer payload options).run
  have begun : (act ⟨session, []⟩ (.submit word payload options)).2 =
      ⟨session, [.submitting program]⟩ := by
    simp only [act, named]
    rfl
  cases ended : program.runAll Chain.ledger 0 session.docket.world with
  | mk result left =>
      have sent {errands : List Errand}
          (rest : Leads act ⟨session.onWorld left.2, [.submitting (.done result)]⟩ .quiet
            ⟨(session.submitWithOptions Chain.ledger (.ofWord word) payload options).2, errands⟩) :
          Leads act ⟨session, []⟩ .quiet
            ⟨(session.submitWithOptions Chain.ledger (.ofWord word) payload options).2,
              errands⟩ := by
        refine .act (.submit word payload options) ?_
        rw [begun]
        exact submitting_leads program 0 session.docket.world (ended ▸ rest)
      have performed : session.docket.perform Chain.ledger
          (session.docket.tracker.submit signer payload options) =
          (result, left.1, { session.docket with world := left.2 }) := by
        unfold Docket.perform
        change (match program.runAll Chain.ledger 0 session.docket.world with
          | (result, ms, world) => (result, ms, { session.docket with world })) = _
        rw [ended]
      cases result with
      | error fault =>
          refine ⟨[.ended], sent (.single (.advance 0) ?_)⟩
          simp only [Session.submitWithOptions, named, Docket.submit, performed]
          rfl
      | ok submission =>
          refine ⟨[.filed session.docket.cases.size], sent (.single (.advance 0) ?_)⟩
          simp only [Session.submitWithOptions, named, Docket.submit, performed]
          rfl

/-- A wait that is alone takes its steps in the order of a schedule, up to its end or to the instant at
which it is broken off. -/
theorem resolving_leads (program : Program (Except Fault FinalityRecord)) (limits : Limits) (now : Nat)
    (world : World Chain)
    (rest : Leads act ⟨session.onWorld (program.run Chain.ledger limits now world).2.2,
      [.resolving number (.done (session.docket.tracker.concluded
        (program.run Chain.ledger limits now world).1))]⟩ event after) :
    Leads act ⟨session.onWorld world, [.resolving number program]⟩ event after := by
  let under (errand : Errand) (world : World Chain) : Prop :=
    Leads act ⟨session.onWorld world, [errand]⟩ event after
  refine Program.run_backwards (fun program => under (.resolving number program))
    (fun ended => under (.resolving number (.done (session.docket.tracker.concluded ended))))
    (fun _ _ => id) ?_ ?_ program now world rest
  · exact fun step next world goesOn => .act (.advance 0) goesOn
  · intro step next world wake ended instant waits due broken
    -- The program breaks off before its step is served, so the world is as it was.
    rw [World.start_waiting waits] at broken
    obtain rfl | rfl := Limits.interrupt_some due
    · exact .act (.interrupt 0 false) broken
    · exact .act (.interrupt 0 true) broken

/-- A call for a receipt by a session alone is a schedule of the bureau, whether it is answered at once,
waits to the end or is broken off. -/
theorem transactionReceipt_leads {word : Int32}
    (named : session.registry.submission (.ofWord word) = .ok number) (cancelAt : Option Nat) :
    ∃ errands, Leads act ⟨session, []⟩
      (.resolved number (session.transactionReceipt Chain.ledger (.ofWord word) cancelAt).1)
      ⟨(session.transactionReceipt Chain.ledger (.ofWord word) cancelAt).2, errands⟩ := by
  have begins : act ⟨session, []⟩ (.resolve word) = resolve ⟨session, []⟩ number := by
    simp only [act, named]
  simp only [Session.transactionReceipt, named]
  cases stored : session.docket.find number with
  | error fault =>
      refine ⟨[], .single (.resolve word) ?_⟩
      rw [begins]
      simp only [Docket.resolve, resolve, Desk.docket, stored]
  | ok found =>
      cases settled : session.docket.outcome? found with
      | some outcome =>
          refine ⟨[], .single (.resolve word) ?_⟩
          rw [begins]
          cases outcome <;>
            simp only [Docket.resolve, resolve, Desk.docket, stored, settled, Except.mapError]
      | none =>
          have begun : (resolve ⟨session, []⟩ number).2 =
              ⟨session, [.resolving number (waitFor session.docket.tracker found)]⟩ := by
            simp only [resolve, Desk.docket, stored, settled]
            rfl
          refine ⟨[.ended], .act (.resolve word) ?_⟩
          rw [begins, begun]
          simp only [Docket.resolve, Docket.await, stored, settled, Tracker.awaitFinality, waitFor,
            Tracker.wait_eq]
          cases found.cancelled with
          | true => exact .single (.advance 0) rfl
          | false =>
              exact resolving_leads _ ⟨some session.docket.tracker.deadline, cancelAt⟩ 0
                session.docket.world (.single (.advance 0) rfl)

end Bureau

end Notary
