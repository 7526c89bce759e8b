import Notary.Proofs.Finality.Verdict
import Notary.Proofs.Nonces.Uniqueness
import Notary.Proofs.Program.Breakdown

namespace Notary

/-!
Where the sums of the tracker can overflow. A submission breaks down where the counter of its account
has come to the last nonce, and a check where the height that it waits for does not fit its word; what
is left of a submission is then a counter that stands at the nonce it could not give out.
-/

/-- The gas of a payload can be reckoned where it fits its word. -/
theorem AppData.gasLimit_of_fits {length : Nat}
    (fits : baseGas + (idLength + length) * byteGas < Checked.limit 64) :
    Checked.add 64 idLength length = .ok (idLength + length) ∧
      AppData.gasLimit (idLength + length) = .ok (baseGas + (idLength + length) * byteGas) := by
  have multiplied : Checked.mul 64 (idLength + length) byteGas = .ok ((idLength + length) * byteGas) :=
    if_pos (by omega)
  have summed : Checked.add 64 baseGas ((idLength + length) * byteGas) =
      .ok (baseGas + (idLength + length) * byteGas) := if_pos fits
  refine ⟨if_pos (by simp only [idLength, byteGas] at fits ⊢; omega), ?_⟩
  unfold gasLimit
  rw [multiplied]
  exact summed

theorem AppData.gasLimit_fits {length : Nat} (short : length < Checked.limit 59) :
    baseGas + (idLength + length) * byteGas < Checked.limit 64 := by
  have words : Checked.limit 59 = 576460752303423488 ∧
      Checked.limit 64 = 18446744073709551616 := ⟨rfl, rfl⟩
  simp only [baseGas, idLength, byteGas]
  omega

namespace Tracker

variable {tracker : Tracker} {account : Address} {options : SubmitOptions} {nonce : Nat}

theorem chooseNonce_firm : (chooseNonce account options).Firm := by
  unfold chooseNonce
  cases options.nonce with
  | some nonce => exact Task.firm_pure
  | none => exact Task.firm_ask.bind fun pending => Task.firm_reserve

theorem prepare_firm {length : Nat} (short : length < Checked.limit 59) :
    (tracker.prepare account length options).Firm := by
  obtain ⟨added, priced⟩ := AppData.gasLimit_of_fits (AppData.gasLimit_fits short)
  unfold prepare
  refine Task.firm_ask.bind fun reported => Task.firm_ofResult.bind fun gasPrice => ?_
  refine chooseNonce_firm.bind fun nonce => ?_
  rw [added, Task.settled_bind, priced, Task.settled_bind]
  exact Task.firm_pure

theorem giveBack_firm : (giveBack account options nonce).Firm := by
  unfold giveBack
  split
  · exact Task.firm_release.bind fun _ => Task.firm_pure
  · exact Task.firm_pure

theorem broadcast_firm {signed : SignedTransaction} : (broadcast options signed).Firm := by
  unfold broadcast
  refine Task.firm_ask.attempt_bind (fun sent whole => ?_) fun message => rfl
  rcases sent with (e | message) | hash
  · by_cases known : Rejection.isAlreadyKnown e.message
    · simp only [known, if_true]
      exact Task.firm_pure
    · simp only [known]
      exact giveBack_firm.bind fun _ => Task.firm_fail
  · exact absurd trivial whole
  · exact Task.firm_pure

theorem attemptSubmit_firm {signer : Signer} {payload : Bytes}
    (short : payload.length < Checked.limit 59) :
    (tracker.attemptSubmit signer payload options).Firm := by
  unfold attemptSubmit
  refine (Task.firm_ask.mapFailure asBroadcast).bind fun submittedAt => ?_
  refine ((prepare_firm short).mapFailure asBroadcast).bind fun terms => ?_
  cases signer.signPayload payload options.appId terms with
  | error e => exact giveBack_firm.bind fun _ => Task.firm_fail
  | ok signed => exact broadcast_firm.bind fun _ => Task.firm_pure

theorem submit_firm {signer : Signer} {payload : Bytes}
    (short : payload.length < Checked.limit 59) :
    (tracker.submit signer payload options).Firm := by
  unfold submit
  refine (attemptSubmit_firm short).attempt_bind (fun outcome whole => ?_) fun message => rfl
  rcases outcome with (e | message) | submission
  · exact Task.firm_note.bind fun _ => Task.firm_fail
  · exact absurd trivial whole
  · exact Task.firm_note.bind fun _ => Task.firm_pure

end Tracker

/-- The step draws a nonce where the next one is the greatest that a word can hold. -/
def NonceBook.Exhausts (book : NonceBook) : Step → Prop
  | .reserve account floor => Checked.limit 64 ≤ max (book.next account) floor + 1
  | _ => False

/-- The draw leaves the counter at the nonce that it cannot give out. -/
def NonceBook.StopsAt (book : NonceBook) (step : Step) (after : NonceBook) : Prop :=
  ∃ account floor, step = .reserve account floor ∧
    after = book.set account (max (book.next account) floor)

theorem NonceBook.reserve_breaks_iff {book : NonceBook} {account : Address} {floor : Nat} :
    BreaksDown (book.reserve account floor).1 ↔
      Checked.limit 64 ≤ max (book.next account) floor + 1 := by
  rw [reserve_fst, Checked.add]
  by_cases fits : max (book.next account) floor + 1 < Checked.limit 64
  · rw [if_pos fits]
    exact iff_of_false not_false (Nat.not_le.mpr fits)
  · rw [if_neg fits]
    exact iff_of_true trivial (Nat.not_lt.mp fits)

theorem NonceBook.release_whole {book : NonceBook} {account : Address} {nonce : Nat}
    (fits : nonce + 1 < Checked.limit 64) : ¬ BreaksDown (book.release account nonce).1 := by
  have added : Checked.add 64 nonce 1 = .ok (nonce + 1) := if_pos fits
  unfold release
  cases book.peek account with
  | none => exact not_false
  | some next =>
      simp only [added]
      split <;> exact not_false

/-- The ledger always answers, be it with a failure. -/
def Ledger.Steady {σ : Type} (ledger : Ledger σ) : Prop :=
  ∀ call state later, ¬ BreaksDown ((ledger.start call state).finish later).1

section

open Crew (Turn)

variable {σ : Type} {ledger : Ledger σ} {world after : World σ} {account : Address}
  {options : SubmitOptions} {tenure : Tenure}

def Tenure.Bounded (tenure : Tenure) : Prop :=
  ∀ nonce, tenure = .holding nonce → nonce + 1 < Checked.limit 64

theorem Tenure.serve_breaks_iff {step : Step} {reply : step.Reply} (steady : ledger.Steady)
    (bounded : tenure.Bounded) (allowed : tenure.allows account options step)
    (served : world.serve ledger step = (reply, after)) :
    step.Breaks reply ↔ world.book.Exhausts step := by
  cases step with
  | ask call =>
      obtain rfl := (Prod.mk.inj served).1
      exact iff_of_false (steady call world.ledger _) not_false
  | pause | draw | note => exact Iff.rfl
  | reserve other floor =>
      obtain rfl := (Prod.mk.inj served).1
      exact NonceBook.reserve_breaks_iff
  | release other returned =>
      obtain rfl := (Prod.mk.inj served).1
      refine iff_of_false (NonceBook.release_whole ?_) not_false
      cases tenure with
      | idle | ended => exact allowed.elim
      | holding nonce =>
          obtain ⟨-, -, rfl⟩ := allowed
          exact bounded returned rfl

theorem NonceBook.stopsAt_of_exhausts {step : Step} {reply : step.Reply}
    (served : world.serve ledger step = (reply, after)) (exhausts : world.book.Exhausts step) :
    world.book.StopsAt step after.book := by
  cases step with
  | ask | release | pause | draw | note => exact exhausts.elim
  | reserve account floor =>
      have reserved : world.book.reserve account floor = (reply, after.book) :=
        congrArg (fun served => (served.1, served.2.book)) served
      have broken := NonceBook.reserve_breaks_iff.mpr exhausts
      rw [reserved] at broken
      obtain ⟨message, rfl⟩ := breaksDown_iff.mp broken
      exact ⟨account, floor, rfl, NonceBook.reserve_error reserved⟩

theorem Tenure.Bounded.serve {step : Step} {reply : step.Reply} (bounded : tenure.Bounded)
    (served : world.serve ledger step = (reply, after)) : (tenure.after step reply).Bounded := by
  cases step with
  | ask | pause | draw | note => cases tenure <;> exact bounded
  | release =>
      cases tenure with
      | idle | ended => exact bounded
      | holding => exact nofun
  | reserve other floor =>
      cases tenure with
      | holding | ended => exact bounded
      | idle =>
          have reserved : world.book.reserve other floor = (reply, after.book) :=
            congrArg (fun served => (served.1, served.2.book)) served
          cases reply with
          | error fault => exact bounded
          | ok nonce =>
              rintro _ ⟨⟩
              exact NonceBook.reserve_fits reserved

end

namespace Tracker

open Crew (Turn)

variable {σ : Type} {ledger : Ledger σ} {tracker : Tracker} {orders : List Order} {world : World σ}
  {thread : Nat} {turn : Turn} {after : Crew σ (Except Fault Submission)}

/-- A submission is over with a breakdown as soon as a step of it has broken down, and not else. -/
theorem broken_iff_breaks {discipline : Discipline Tenure} {phases : Tenure × Prop}
    {post : Tenure × Prop → Except Fault Submission → Prop} {step : Step} {reply : step.Reply}
    {program : Program (Except Fault Submission)} (whole : ¬ phases.2)
    (ends : ∀ phases outcome, post phases outcome → (phases.2 ↔ BreaksDown outcome))
    (kept : program.Keeps (discipline.both .firm) post
      ((discipline.both .firm).after phases step reply)) :
    (∃ message, program = .done (.error (.breakdown message))) ↔ step.Breaks reply := by
  have broken_iff : (phases.2 ∨ step.Breaks reply) ↔ step.Breaks reply := or_iff_right whole
  cases program with
  | done outcome =>
      have ended : (phases.2 ∨ step.Breaks reply) ↔ BreaksDown outcome := ends _ outcome kept
      rw [← broken_iff, ended, breaksDown_iff]
      simp
  | step other next =>
      -- A submission that goes on has heard of no breakdown, since none is followed by a step.
      have unbroken : ¬ step.Breaks reply := fun breaks => kept.1.2 (.inr breaks)
      exact iff_of_false (by simp) unbroken

theorem crew_bounded {post : Nat → Tenure × Prop → Except Fault Submission → Prop}
    {account : Nat → Address} {options : Nat → SubmitOptions} (ledger : Ledger σ)
    (crew : Crew σ (Except Fault Submission)) (schedule : List Nat)
    (disciplined : Crew.Disciplined
      (fun thread => (Tenure.discipline (account thread) (options thread)).both .firm) post
      (fun _ => (.idle, False)) crew.threads) :
    ∃ phases, (∀ thread, (phases thread).1.Bounded) ∧
      Crew.Disciplined (fun thread => (Tenure.discipline (account thread) (options thread)).both .firm)
        post phases (crew.play ledger schedule).2.threads := by
  refine @Crew.Disciplined.play _ _ _ _ _ _ _ ledger
    (fun _ _ phases => ∀ thread, (phases thread).1.Bounded)
    (fun {_ _ phases turn _} before _ served thread => ?_) [] schedule disciplined fun _ _ => nofun
  by_cases same : thread = turn.thread
  · subst same
    rw [Crew.moved_self]
    exact (before turn.thread).serve served
  · rw [Crew.moved_of_ne same]
    exact before thread

theorem submissions_break_down_at_last_nonce (steady : ledger.Steady)
    (short : ∀ order ∈ orders, order.payload.length < Checked.limit 59) (schedule : List Nat)
    (taken : ((tracker.crew orders world).play ledger schedule).2.turn ledger thread =
      some (turn, after)) :
    (∃ message, after.threads[thread]? = some (.done (.error (.breakdown message)))) ↔
      ((tracker.crew orders world).play ledger schedule).2.world.book.Exhausts turn.step := by
  obtain ⟨phases, bounded, disciplined⟩ := crew_bounded ledger (tracker.crew orders world) schedule
    (crew_keeps_listed fun order listed => submit_keeps.both (submit_firm (short order listed)))
  obtain ⟨allowed, moved⟩ := disciplined.moves taken
  obtain ⟨rfl, served, next, found, threads⟩ := Crew.turn_eq_some taken
  have inRange := (List.getElem?_eq_some_iff.mp found).1
  have here : after.threads[turn.thread]? = some (next turn.reply) := by
    rw [threads, List.getElem?_set_self inRange]
  have later := moved turn.thread _ here
  rw [Crew.moved_self] at later
  rw [← Tenure.serve_breaks_iff steady (bounded turn.thread) allowed.1 served, here]
  simpa using broken_iff_breaks allowed.2 (fun _ _ ended => ended.2) later

section Checks

variable {submission : Submission} {reply : (step : Step) → step.Reply} {outcome : Except Fault Status}
  {steps : List Step}

theorem check_breaks_of_overflows (overflows : tracker.Overflows submission reply) :
    BreaksDown ((tracker.check submission).answered reply).2 := by
  obtain ⟨mode, report, head, ⟨reported, success⟩, replied, wide⟩ := overflows
  have broken : Checked.add 64 report.blockNumber tracker.finality.confirmationBlocks =
      .error (.breakdown (some "attempt to add with overflow")) := if_neg (Nat.not_lt.mpr wide)
  have depth : (tracker.checkDepth report.blockNumber).answered reply =
      ([.ask .blockNumber], .error (.breakdown (some "attempt to add with overflow"))) := by
    unfold checkDepth
    rw [mode, broken]
    exact Task.answered_bind (Task.answered_ask replied) rfl
  have ended : (tracker.check submission).answered reply =
      ([.ask (.inclusion submission.hash), .ask .blockNumber],
        .error (.breakdown (some "attempt to add with overflow"))) := by
    unfold check
    refine Task.answered_bind (Task.answered_ask reported) ?_
    simp only [success]
    exact Task.answered_bind_error depth
  rw [ended]
  trivial

theorem Course.whole (course : tracker.Course submission reply steps outcome)
    (whole : ∀ step : Step, ¬ step.Breaks (reply step)) : ¬ BreaksDown outcome := by
  rw [breaksDown_iff]
  rintro ⟨message, rfl⟩
  obtain ⟨call, -, replied⟩ | ⟨same, -⟩ := (course.notFound (.breakdown message)).mp rfl
  · have broken : BreaksDown (reply (.ask call)) := by
      rw [replied]
      trivial
    exact whole (.ask call) broken
  · cases same

theorem check_breaks_iff (whole : ∀ step : Step, ¬ step.Breaks (reply step)) :
    BreaksDown ((tracker.check submission).answered reply).2 ↔
      tracker.Overflows submission reply := by
  constructor
  · intro broken
    obtain course | ⟨overflows, -⟩ := tracker.check_course submission reply
    · exact absurd broken (course.whole whole)
    · exact overflows
  · exact check_breaks_of_overflows

end Checks

end Tracker

theorem Checked.saturatingAdd_lt_iff {left right height : Nat} (word : height < limit 64) :
    saturatingAdd 64 left right < height ↔ left + right < height := by
  unfold saturatingAdd
  omega

namespace Tracker

open Crew (Turn)

variable {σ : Type} {ledger : Ledger σ} {orders : List Order}

/-- Two sums of the tracker can overflow, and nothing else breaks it down: the one that takes the
counter of an account past a nonce, and the one that makes up the height that a check waits for. The
counter is left at the nonce that was not given out. Where the height fits, the check decides by exact
numbers, and so does the window of a submission, whose end is cut to the greatest word. -/
theorem breaks_down_only_by_two_sums (steady : ledger.Steady) (tracker : Tracker)
    (short : ∀ order ∈ orders, order.payload.length < Checked.limit 59) (world : World σ)
    (schedule : List Nat) :
    (∀ thread turn after,
      ((tracker.crew orders world).play ledger schedule).2.turn ledger thread = some (turn, after) →
      ((∃ message, after.threads[thread]? = some (.done (.error (.breakdown message)))) ↔
        ((tracker.crew orders world).play ledger schedule).2.world.book.Exhausts turn.step) ∧
      (((tracker.crew orders world).play ledger schedule).2.world.book.Exhausts turn.step →
        ((tracker.crew orders world).play ledger schedule).2.world.book.StopsAt turn.step
          after.world.book)) ∧
    (∀ submission (reply : (step : Step) → step.Reply),
      (∀ step : Step, ¬ step.Breaks (reply step)) →
      (BreaksDown ((tracker.check submission).answered reply).2 ↔
        tracker.Overflows submission reply) ∧
      (¬ tracker.Overflows submission reply →
        tracker.Decides submission reply ((tracker.check submission).answered reply).1
          ((tracker.check submission).answered reply).2) ∧
      ∀ window head, inclusionReply submission reply = .ok none →
        submission.mortalityBlocks = some window → headReply reply = .ok head →
        head < Checked.limit 64 →
          (Expired submission reply ↔ submission.submittedAt + window < head)) := by
  constructor
  · intro thread turn after taken
    exact ⟨submissions_break_down_at_last_nonce steady short schedule taken,
      NonceBook.stopsAt_of_exhausts (Crew.turn_eq_some taken).2.1⟩
  · intro submission reply whole
    refine ⟨check_breaks_iff whole, fun fits => ?_, fun window head absent bounded replied word => ?_⟩
    · obtain course | overflowed := tracker.check_course submission reply
      · exact course.decides
      · exact absurd overflowed.1 fits
    · rw [expired_iff_lt absent bounded replied, Checked.saturatingAdd_lt_iff word]

/-- A ledger on which every account has used up its nonces but the last. -/
def worn : Ledger Unit where
  chance _ _ := ⟨0, Nat.succ_pos _⟩
  start call state := .now state fun state =>
    (match call with
      | .chainId | .blockNumber | .gasPrice => Except.ok (0 : Nat)
      | .pendingNonce _ => Except.ok (Checked.limit 64 - 1)
      | .finalizedBlockNumber | .blockHash _ | .inclusion _ => Except.ok none
      | .sendRaw _ => Except.error (.failure .cancelled), state)

theorem worn_steady : worn.Steady := by
  intro call state later
  cases call <;> exact not_false

theorem submission_breaks_down_at_last_nonce :
    worn.Steady ∧ (∀ order ∈ [(default : Order)], order.payload.length < Checked.limit 59) ∧
    ∃ turn after, (((default : Tracker).crew [default] ⟨(), .empty, .empty⟩).play worn
        [0, 0, 0]).2.turn worn 0 = some (turn, after) ∧
      ∃ message, after.threads[0]? = some (.done (.error (.breakdown message))) := by
  have short : ∀ order ∈ [(default : Order)], order.payload.length < Checked.limit 59 := by
    intro order listed
    obtain rfl := List.mem_singleton.mp listed
    decide
  have rule := breaks_down_only_by_two_sums worn_steady (default : Tracker) short
    ⟨(), .empty, .empty⟩ [0, 0, 0]
  obtain ⟨turn, after, taken, exhausts⟩ : ∃ turn after,
      (((default : Tracker).crew [default] ⟨(), .empty, .empty⟩).play worn [0, 0, 0]).2.turn worn 0 =
        some (turn, after) ∧
      (((default : Tracker).crew [default] ⟨(), .empty, .empty⟩).play worn
        [0, 0, 0]).2.world.book.Exhausts turn.step := by
    refine ⟨_, _, rfl, ?_⟩
    exact (by decide : Checked.limit 64 ≤ max 0 (Checked.limit 64 - 1) + 1)
  exact ⟨worn_steady, short, turn, after, taken, (rule.1 0 turn after taken).1.mpr exhausts⟩

/-- A check that waits for three blocks on the highest one. -/
theorem check_breaks_down_at_last_height :
    (((⟨1, none, {}, { mode := .confirmations }⟩ : Tracker).check default).answered fun
      | .ask (.inclusion hash) =>
          Except.ok (some (⟨Checked.limit 64 - 1, ⟨2⟩, 0, hash, true⟩ : InclusionReport))
      | .ask .blockNumber => Except.ok (5 : Nat)
      | .ask _ | .reserve _ _ | .release _ _ => Except.error (.failure .cancelled)
      | .draw _ => ⟨0, Nat.succ_pos _⟩
      | .pause _ | .note _ => ()).2 = .error (.breakdown (some "attempt to add with overflow")) := by
  rfl

end Tracker

end Notary
