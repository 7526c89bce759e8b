import Notary.Proofs.Nonces.Rejected
import Notary.Proofs.Number.Overflow

namespace Notary

/-!
Submissions of one account one after the other on one tracker. The counter of the account goes up by
one with each of them that is accepted with a nonce of the tracker's choice, and stays where it is with
every other one.
-/

/-- How far a submission has come with a nonce of the tracker's choice. -/
inductive Numbering where
  | unasked
  | told (floor : Nat)
  | drawn (floor nonce : Nat)
  | settled (floor : Nat)
  /-- A call to the ledger broke down. -/
  | broken

namespace Numbering

def allows (account : Address) (options : SubmitOptions) : Numbering → Step → Prop
  | broken, _ => True
  | told floor, step => step = .reserve account floor
  | unasked, .ask (.pendingNonce _) => options.nonce = none
  | drawn _ nonce, .release other returned => other = account ∧ returned = nonce
  | _, step => step.Aloof

def after : Numbering → (step : Step) → step.Reply → Numbering
  | unasked, .ask (.pendingNonce _), .ok floor => told floor
  | told floor, .reserve _ _, .ok nonce => drawn floor nonce
  | told floor, .reserve _ _, .error _ => settled floor
  | drawn floor _, .release _ _, _ => settled floor
  | _, .ask _, .error (.breakdown _) => broken
  | numbering, _, _ => numbering

/-- What the ledger tells is followed by a draw at once, and what was drawn is given back but for an
accepted transaction. -/
def discipline (account : Address) (options : SubmitOptions) : Discipline Numbering :=
  ⟨allows account options, after⟩

/-- The submission goes on with a nonce: the caller's or the one that it has drawn. -/
inductive Carries (options : SubmitOptions) (nonce : Nat) : Numbering → Prop
  | given (own : options.nonce = some nonce) : Carries options nonce unasked
  | managed (floor : Nat) (free : options.nonce = none) : Carries options nonce (drawn floor nonce)

/-- No nonce is out, nor about to be drawn. -/
inductive Clear : Numbering → Prop
  | unasked : Clear unasked
  | settled (floor : Nat) : Clear (settled floor)
  | broken : Clear broken

variable {α β : Type} {account : Address} {options : SubmitOptions} {numbering : Numbering}
  {nonce : Nat}

/-- How work on a submission ends: with what is asked of its result, or with no nonce out. -/
def EndsWith (accepts : α → Numbering → Prop) (numbering : Numbering) : Except Fault α → Prop
  | .ok result => accepts result numbering
  | .error _ => numbering.Clear

def Keeps (account : Address) (options : SubmitOptions) (accepts : α → Numbering → Prop)
    (numbering : Numbering) (task : Task α) : Prop :=
  task.Keeps (discipline account options) (EndsWith accepts) numbering

theorem Keeps.bind {accepts : β → Numbering → Prop} {middle : α → Numbering → Prop} {task : Task α}
    {f : α → Task β} (first : Keeps account options middle numbering task)
    (rest : ∀ result numbering, middle result numbering →
      Keeps account options accepts numbering (f result)) :
    Keeps account options accepts numbering (task >>= f) := by
  refine Task.keeps_bind.mpr (first.mono fun numbering outcome ended => ?_)
  cases outcome with
  | ok result => exact rest result numbering ended
  | error fault => exact ended

theorem Keeps.mapFailure {accepts : α → Numbering → Prop} {task : Task α}
    (kept : Keeps account options accepts numbering task) (change : Error → Error) :
    Keeps account options accepts numbering (task.mapFailure change) := by
  refine Task.keeps_mapFailure.mpr (Task.Keeps.mono kept fun numbering outcome ended => ?_)
  rcases outcome with (e | message) | result <;> exact ended

theorem ask_keeps {call : Call} (aloof : (Step.ask call).Aloof) :
    Keeps account options (fun _ after => after = unasked) unasked (Task.ask call) := by
  cases call with
  | pendingNonce => exact aloof.elim
  | chainId | blockNumber | finalizedBlockNumber | blockHash | gasPrice | sendRaw | inclusion =>
      refine Task.keeps_ask.mpr ⟨trivial, ?_⟩
      rintro ((e | message) | answer)
      · exact .unasked
      · exact .broken
      · rfl

theorem note_keeps {metric : Metric} {post : Numbering → Except Fault Unit → Prop}
    (allowed : allows account options numbering (.note metric)) (ends : post numbering (.ok ())) :
    (Task.note metric).Keeps (discipline account options) post numbering := by
  refine Task.keeps_note.mpr ⟨allowed, fun _ => ?_⟩
  cases numbering <;> exact ends

/-- A submission that goes on with a nonce does so after it has been answered, unless the call broke
down. -/
theorem send_keeps {raw : Bytes} {post : Numbering → Except Fault Hash → Prop}
    (carries : numbering.Carries options nonce)
    (whole : ∀ reply, ¬ BreaksDown reply → post numbering reply)
    (breaks : ∀ message, post broken (.error (.breakdown message))) :
    (Task.ask (.sendRaw raw)).Keeps (discipline account options) post numbering := by
  have allowed : allows account options numbering (.ask (.sendRaw raw)) := by
    cases carries <;> trivial
  refine Task.keeps_ask.mpr ⟨allowed, ?_⟩
  rintro ((e | message) | hash)
  · cases carries <;> exact whole _ not_false
  · cases carries <;> exact breaks message
  · cases carries <;> exact whole _ not_false

end Numbering

namespace Tracker

open Notary.Numbering

variable {tracker : Tracker} {account : Address} {options : SubmitOptions} {numbering : Numbering}
  {nonce : Nat}

theorem chooseNonce_numbers :
    Numbering.Keeps account options (fun nonce numbering => numbering.Carries options nonce) unasked
      (chooseNonce account options) := by
  unfold chooseNonce
  cases given : options.nonce with
  | some nonce => exact Carries.given given
  | none =>
      refine Task.keeps_bind.mpr (Task.keeps_ask.mpr ⟨given, ?_⟩)
      rintro ((e | message) | pending)
      · exact Clear.unasked
      · exact Clear.broken
      · refine Task.keeps_reserve.mpr ⟨rfl, fun reply => ?_⟩
        cases reply with
        | error fault => exact Clear.settled pending
        | ok nonce => exact Carries.managed pending given

theorem prepare_numbers {length : Nat} (fits :
      AppData.baseGas + (AppData.idLength + length) * AppData.byteGas < Checked.limit 64) :
    Numbering.Keeps account options (fun terms numbering => numbering.Carries options terms.nonce)
      unasked (tracker.prepare account length options) := by
  obtain ⟨added, reckoned⟩ := AppData.gasLimit_of_fits fits
  unfold prepare
  refine Numbering.Keeps.bind (ask_keeps trivial) ?_
  rintro reported _ rfl
  have priced : Numbering.Keeps account options (fun _ after => after = unasked) unasked
      (Task.ofResult (tracker.offeredPrice reported)) := by
    refine Task.keeps_ofResult.mpr ?_
    cases tracker.offeredPrice reported with
    | error e => exact Clear.unasked
    | ok gasPrice => rfl
  refine priced.bind ?_
  rintro gasPrice _ rfl
  refine chooseNonce_numbers.bind fun nonce numbering carries => ?_
  rw [added, Task.settled_bind, reckoned, Task.settled_bind]
  exact carries

theorem giveBack_numbers (carries : numbering.Carries options nonce) :
    (giveBack account options nonce).Keeps (Numbering.discipline account options)
      (fun numbering _ => numbering.Clear) numbering := by
  unfold giveBack
  cases carries with
  | given own =>
      rw [own]
      exact Clear.unasked
  | managed floor free =>
      rw [free]
      refine Task.keeps_bind.mpr (Task.keeps_release.mpr ⟨⟨rfl, rfl⟩, fun reply => ?_⟩)
      cases reply <;> exact Clear.settled floor

theorem giveBack_fail_numbers {α : Type} {accepts : α → Numbering → Prop} (e : Error)
    (carries : numbering.Carries options nonce) :
    Numbering.Keeps account options accepts numbering
      (do giveBack account options nonce; Task.fail e) := by
  refine Task.keeps_bind.mpr ((giveBack_numbers carries).mono fun numbering outcome clear => ?_)
  cases outcome <;> exact clear

theorem broadcast_numbers {signed : SignedTransaction}
    (carries : numbering.Carries options signed.nonce) :
    Numbering.Keeps signed.sender options (fun _ numbering => numbering.Carries options signed.nonce)
      numbering (broadcast options signed) := by
  unfold broadcast
  refine Task.keeps_bind.mpr (Task.keeps_attempt.mpr (send_keeps carries ?_ ?_))
  · rintro ((e | message) | hash) whole
    · refine Task.goesOn_ok.mpr ?_
      by_cases known : Rejection.isAlreadyKnown e.message
      · simp only [known, if_true]
        exact carries
      · simp only [known]
        exact giveBack_fail_numbers (asBroadcast e) carries
    · exact absurd trivial whole
    · exact carries
  · exact fun message => Clear.broken

theorem attemptSubmit_numbers {signer : Signer} {payload : Bytes} (fits :
      AppData.baseGas + (AppData.idLength + payload.length) * AppData.byteGas < Checked.limit 64) :
    Numbering.Keeps signer.address options
      (fun submission numbering => numbering.Carries options submission.transaction.nonce) unasked
      (tracker.attemptSubmit signer payload options) := by
  unfold attemptSubmit
  have headRead : Numbering.Keeps signer.address options (fun _ after => after = unasked) unasked
      (Task.ask .blockNumber) := ask_keeps trivial
  refine Numbering.Keeps.bind (headRead.mapFailure asBroadcast) ?_
  rintro submittedAt _ rfl
  refine Numbering.Keeps.bind ((prepare_numbers fits).mapFailure asBroadcast)
    fun terms numbering carries => ?_
  cases payloadSigned : signer.signPayload payload options.appId terms with
  | error e => exact giveBack_fail_numbers e carries
  | ok signed =>
      obtain ⟨sender, nonce⟩ : signed.sender = signer.address ∧ signed.nonce = terms.nonce :=
        Signer.seal_ok payloadSigned
      rw [← nonce] at carries
      rw [← sender]
      exact (broadcast_numbers carries).bind fun _ _ carries => carries

theorem submit_numbers (tracker : Tracker) (signer : Signer) {payload : Bytes} (fits :
      AppData.baseGas + (AppData.idLength + payload.length) * AppData.byteGas < Checked.limit 64) :
    Numbering.Keeps signer.address options
      (fun submission numbering => numbering.Carries options submission.transaction.nonce) unasked
      (tracker.submit signer payload options) := by
  unfold submit
  refine Task.keeps_bind.mpr (Task.keeps_attempt.mpr ((attemptSubmit_numbers fits).mono ?_))
  intro numbering outcome ended
  refine Task.goesOn_ok.mpr ?_
  rcases outcome with (e | message) | submission
  · have allowed : allows signer.address options numbering (.note (.submissions "failed")) := by
      cases ended <;> trivial
    exact Task.keeps_bind.mpr (note_keeps allowed ended)
  · exact ended
  · have allowed : allows signer.address options numbering (.note (.submissions "accepted")) := by
      cases ended <;> trivial
    exact Task.keeps_bind.mpr (note_keeps allowed ended)

end Tracker

/-- What the ledger told of the next nonce of an account. -/
def Exchange.told? : Exchange → Option Nat
  | ⟨.ask (.pendingNonce _), .ok pending⟩ => some pending
  | _ => none

namespace Numbering

/-- What the submission has been told. -/
def floors : Numbering → List Nat
  | unasked | broken => []
  | told floor | drawn floor _ | settled floor => [floor]

/-- Where the counter of the account stands, having stood at the first number before. -/
def Counts (first counter : Nat) : Numbering → Prop
  | unasked | told _ => counter = first
  | drawn floor nonce =>
      nonce = max first floor ∧ counter = nonce + 1 ∧ nonce + 1 < Checked.limit 64
  | settled floor => counter = max first floor
  | broken => False

/-- How the book stands to a submission that began with another one. -/
structure Accounts (account : Address) (start : NonceBook) (history : List Exchange)
    (book : NonceBook) (numbering : Numbering) : Prop where
  told : history.filterMap Exchange.told? = numbering.floors
  counter : numbering.Counts (start.next account) (book.next account)
  others : ∀ other, other ≠ account → book.peek other = start.peek other

variable {σ : Type} {ledger : Ledger σ} {world after : World σ} {account : Address}
  {options : SubmitOptions} {numbering : Numbering} {start : NonceBook} {history : List Exchange}
  {exchange : Exchange}

/-- A step that says nothing of nonces and leaves the book alone. -/
theorem Accounts.quiet (accounts : numbering.Accounts account start history world.book)
    (untold : exchange.told? = none) (unmoved : after.book = world.book)
    (same : numbering.after exchange.step exchange.reply = numbering) :
    (numbering.after exchange.step exchange.reply).Accounts account start (history ++ [exchange])
      after.book := by
  rw [same, unmoved]
  refine { accounts with told := ?_ }
  rw [List.filterMap_append, accounts.told]
  simp [untold]

theorem after_ask {call : Call} {reply : call.Reply} (other : ∀ account, call ≠ .pendingNonce account)
    (whole : ¬ BreaksDown reply) : numbering.after (.ask call) reply = numbering := by
  cases call with
  | pendingNonce account => exact absurd rfl (other account)
  | chainId | blockNumber | finalizedBlockNumber | blockHash | gasPrice | sendRaw | inclusion =>
      rcases reply with (e | message) | answer
      · cases numbering <;> rfl
      · exact absurd trivial whole
      · cases numbering <;> rfl

theorem Accounts.ask {call : Call} {reply : call.Reply}
    (accounts : numbering.Accounts account start history world.book) (whole : ¬ BreaksDown reply)
    (allowed : allows account options numbering (.ask call)) (unmoved : after.book = world.book) :
    (numbering.after (.ask call) reply).Accounts account start (history ++ [⟨.ask call, reply⟩])
      after.book := by
  cases call with
  | pendingNonce other =>
      cases numbering with
      | told floor => cases allowed
      | drawn floor nonce | settled floor => exact allowed.elim
      | broken => exact accounts.counter.elim
      | unasked =>
          rcases reply with (e | message) | pending
          · exact accounts.quiet rfl unmoved rfl
          · exact absurd trivial whole
          · rw [unmoved]
            refine { told := ?_, counter := accounts.counter, others := accounts.others }
            rw [List.filterMap_append, accounts.told]
            rfl
  | chainId | blockNumber | finalizedBlockNumber | blockHash | gasPrice | sendRaw | inclusion =>
      refine accounts.quiet ?_ unmoved (after_ask (fun _ => nofun) whole)
      cases reply <;> rfl

theorem Accounts.reserve {other : Address} {floor : Nat} {reply : Except Fault Nat}
    {left : NonceBook} (accounts : numbering.Accounts account start history world.book)
    (allowed : allows account options numbering (.reserve other floor))
    (reserved : world.book.reserve other floor = (reply, left)) :
    (numbering.after (.reserve other floor) reply).Accounts account start
      (history ++ [⟨.reserve other floor, reply⟩]) left := by
  cases numbering with
  | unasked | drawn | settled => exact allowed.elim
  | broken => exact accounts.counter.elim
  | told pending =>
      obtain ⟨own, rfl⟩ := Step.reserve.inj allowed
      subst own
      have level : world.book.next other = start.next other := accounts.counter
      have heard : (history ++ [(⟨.reserve other floor, reply⟩ : Exchange)]).filterMap
          Exchange.told? = [floor] := by
        rw [List.filterMap_append, accounts.told]
        rfl
      cases reply with
      | error fault =>
          rw [NonceBook.reserve_error reserved, level]
          refine { told := heard, counter := NonceBook.next_set_self, others := fun another differs => ?_ }
          rw [NonceBook.peek_set_of_ne differs, accounts.others another differs]
      | ok nonce =>
          obtain ⟨value, moved⟩ := NonceBook.reserve_ok reserved
          rw [level] at value
          rw [moved]
          refine {
            told := heard
            counter := ⟨value, NonceBook.next_set_self, NonceBook.reserve_fits reserved⟩
            others := fun another differs => ?_ }
          rw [NonceBook.peek_set_of_ne differs, accounts.others another differs]

theorem Accounts.release {other : Address} {returned : Nat} {reply : Except Fault Bool}
    {left : NonceBook} (accounts : numbering.Accounts account start history world.book)
    (allowed : allows account options numbering (.release other returned))
    (released : world.book.release other returned = (reply, left)) :
    (numbering.after (.release other returned) reply).Accounts account start
      (history ++ [⟨.release other returned, reply⟩]) left := by
  cases numbering with
  | unasked | settled => exact allowed.elim
  | told => cases allowed
  | broken => exact accounts.counter.elim
  | drawn floor nonce =>
      obtain ⟨rfl, rfl⟩ := allowed
      obtain ⟨value, top, fits⟩ := accounts.counter
      rw [NonceBook.release_top top fits] at released
      cases released
      refine { told := ?_, counter := ?_, others := fun other differs => ?_ }
      · rw [List.filterMap_append, accounts.told]
        rfl
      · rw [NonceBook.next_set_self]
        exact value
      · rw [NonceBook.peek_set_of_ne differs, accounts.others other differs]

theorem Accounts.step (accounts : numbering.Accounts account start history world.book)
    (steady : ledger.Steady) (allowed : allows account options numbering exchange.step)
    (served : world.serve ledger exchange.step = (exchange.reply, after)) :
    (numbering.after exchange.step exchange.reply).Accounts account start (history ++ [exchange])
      after.book := by
  obtain ⟨step, reply⟩ := exchange
  have booked := congrArg (fun served => served.2.book) served
  cases step with
  | ask call =>
      have answered : (ledger.ask call world.ledger).1 = reply := (Prod.mk.inj served).1
      have whole : ¬ BreaksDown reply := answered ▸ steady call world.ledger _
      exact accounts.ask whole allowed booked.symm
  | pause | draw | note =>
      refine accounts.quiet rfl booked.symm ?_
      cases numbering <;> rfl
  | reserve other floor =>
      exact accounts.reserve allowed (congrArg (fun served => (served.1, served.2.book)) served)
  | release other returned =>
      exact accounts.release allowed (congrArg (fun served => (served.1, served.2.book)) served)

end Numbering

namespace Tracker

open Notary.Numbering

/-- A submission that ran to its end: for which order, by which steps, and how it ended. -/
structure Attempt where
  order : Order
  steps : List Exchange
  outcome : Except Fault Submission

namespace Attempt

/-- What the ledger told the submission of the next nonce of its account. -/
def told (attempt : Attempt) : List Nat :=
  attempt.steps.filterMap Exchange.told?

/-- The nonce of an accepted submission, if the tracker chose it. -/
def number? (attempt : Attempt) : Option Nat :=
  match attempt.order.options.nonce, attempt.outcome with
  | none, .ok submission => some submission.transaction.nonce
  | _, _ => none

end Attempt

def numbers (attempts : List Attempt) : List Nat :=
  attempts.filterMap Attempt.number?

/-- Submits an order and leaves nothing of it undone. -/
def carryOut {σ : Type} (ledger : Ledger σ) (tracker : Tracker) (order : Order) (world : World σ) :
    Attempt × World σ :=
  let program := (tracker.submit order.signer order.payload order.options).run
  let (outcome, _, after) := program.runAll ledger 0 world
  (⟨order, program.transcript ledger world, outcome⟩, after)

/-- Submissions one after the other. Each comes with the state in which it finds the ledger, which may
be any state: the ledger goes its own way between two submissions. -/
def inTurn {σ : Type} (ledger : Ledger σ) (tracker : Tracker) :
    List (Order × σ) → World σ → List Attempt × World σ
  | [], world => ([], world)
  | (order, finds) :: rest, world =>
      let (attempt, after) := tracker.carryOut ledger order { world with ledger := finds }
      let (later, last) := inTurn ledger tracker rest after
      (attempt :: later, last)

/-- The ledger first tells of a certain nonce, and then of none beyond those that were used since. -/
structure InStep (first : Nat) (attempts : List Attempt) : Prop where
  begins : ∀ pending, (attempts.flatMap Attempt.told).head? = some pending → pending = first
  follows : ∀ before attempt after, attempts = before ++ attempt :: after →
    ∀ pending ∈ attempt.told, pending ≤ first + (numbers before).length

/-- How a submission moves the counter of its account, with what it was told and the nonce with which
it was accepted. -/
inductive Moves (counter : Nat) : List Nat → Option Nat → Nat → Prop
  | still : Moves counter [] none counter
  | back (floor : Nat) : Moves counter [floor] none (max counter floor)
  | on (floor : Nat) : Moves counter [floor] (some (max counter floor)) (max counter floor + 1)

variable {σ : Type} {ledger : Ledger σ} {tracker : Tracker} {account : Address} {first : Nat}
  {start book left : NonceBook} {attempts : List Attempt} {attempt : Attempt} {order : Order}

theorem moves_of_counts {numbering : Numbering} {first counter : Nat} {steps : List Exchange}
    {outcome : Except Fault Submission} (counts : numbering.Counts first counter)
    (ended : numbering.EndsWith (fun submission numbering =>
      numbering.Carries order.options submission.transaction.nonce) outcome) :
    Moves first numbering.floors (Attempt.number? ⟨order, steps, outcome⟩) counter := by
  unfold Attempt.number?
  cases outcome with
  | error fault =>
      have unnumbered : (match order.options.nonce, (.error fault : Except Fault Submission) with
          | none, .ok submission => some submission.transaction.nonce
          | _, _ => none) = none := by
        cases order.options.nonce <;> rfl
      simp only [unnumbered]
      cases ended with
      | broken => exact counts.elim
      | unasked =>
          obtain rfl : counter = first := counts
          exact .still
      | settled floor =>
          obtain rfl : counter = max first floor := counts
          exact .back floor
  | ok submission =>
      obtain own | ⟨floor, free⟩ := ended
      · obtain rfl : counter = first := counts
        simp only [own]
        exact .still
      · obtain ⟨value, rfl, -⟩ := counts
        simp only [free, value]
        exact .on floor

/-- Every submission that fails leaves the counter at the nonce that it would have drawn. -/
theorem carryOut_moves (steady : ledger.Steady) (tracker : Tracker) (order : Order)
    (fits : AppData.baseGas +
      (AppData.idLength + order.payload.length) * AppData.byteGas < Checked.limit 64)
    (world : World σ) :
    Moves (world.book.next order.signer.address) (tracker.carryOut ledger order world).1.told
        (tracker.carryOut ledger order world).1.number?
        ((tracker.carryOut ledger order world).2.book.next order.signer.address) ∧
      ∀ other, other ≠ order.signer.address →
        (tracker.carryOut ledger order world).2.book.peek other = world.book.peek other := by
  obtain ⟨last, accounts, ended⟩ := Program.Keeps.alone (tracker.submit_numbers order.signer fits) ledger
    (fun history here => Accounts order.signer.address world.book history here.book)
    (fun accounts allowed served => accounts.step steady allowed served) 0
    (⟨rfl, rfl, fun _ _ => rfl⟩ : Accounts order.signer.address world.book [] world.book unasked)
  have told : (tracker.carryOut ledger order world).1.told = last.floors := accounts.told
  rw [told]
  exact ⟨moves_of_counts accounts.counter ended, accounts.others⟩

/-- How the counter of an account stands to its submissions so far: they used up the nonces from the
first one on, and the counter is at the next one as soon as the ledger has told anything. -/
structure Gapless (account : Address) (first : Nat) (start : NonceBook) (attempts : List Attempt)
    (book : NonceBook) : Prop where
  row : numbers attempts = List.range' first (numbers attempts).length
  low : book.next account ≤ first + (numbers attempts).length
  level : attempts.flatMap Attempt.told ≠ [] →
    book.next account = first + (numbers attempts).length
  silent : attempts.flatMap Attempt.told = [] → numbers attempts = []
  others : ∀ other, other ≠ account → book.peek other = start.peek other

theorem numbers_append : numbers (attempts ++ [attempt]) =
    numbers attempts ++ attempt.number?.toList := by
  unfold numbers
  rw [List.filterMap_append]
  cases numbered : attempt.number? <;> simp [numbered]

theorem Gapless.told (heard : attempts.flatMap Attempt.told ≠ [])
    (row : numbers attempts = List.range' first (numbers attempts).length)
    (level : book.next account = first + (numbers attempts).length)
    (others : ∀ other, other ≠ account → book.peek other = start.peek other) :
    Gapless account first start attempts book where
  row := row
  low := Nat.le_of_eq level
  level _ := level
  silent unheard := absurd unheard heard
  others := others

/-- What is in step so far was in step before. -/
theorem InStep.earlier {later : List Attempt} (inStep : InStep first (attempts ++ later)) :
    InStep first attempts where
  begins pending found := by
    refine inStep.begins pending ?_
    rw [List.flatMap_append, List.head?_append, found]
    rfl
  follows before attempt after split pending told := by
    refine inStep.follows before attempt (after ++ later) ?_ pending told
    rw [split, List.append_assoc, List.cons_append]

theorem Gapless.step (gapless : Gapless account first start attempts book)
    (moves : Moves (book.next account) attempt.told attempt.number? (left.next account))
    (others : ∀ other, other ≠ account → left.peek other = book.peek other)
    (inStep : InStep first (attempts ++ [attempt])) :
    Gapless account first start (attempts ++ [attempt]) left := by
  have low := gapless.low
  -- Whatever the counter was, the next nonce is the first one that has not been used.
  have next : ∀ floor, attempt.told = [floor] →
      max (book.next account) floor = first + (numbers attempts).length := by
    intro floor told
    by_cases spoken : attempts.flatMap Attempt.told = []
    · have fresh := congrArg List.length (gapless.silent spoken)
      have same : floor = first := inStep.begins floor (by simp [spoken, told])
      simp only [List.length_nil] at fresh
      omega
    · have bound := inStep.follows attempts attempt [] rfl floor (by simp [told])
      have level := gapless.level spoken
      omega
  have others : ∀ other, other ≠ account → left.peek other = start.peek other :=
    fun other differs => (others other differs).trans (gapless.others other differs)
  generalize heard : attempt.told = told at moves
  generalize numbered : attempt.number? = number at moves
  generalize counted : left.next account = counter at moves
  cases moves with
  | still =>
      have numbersSame : numbers (attempts ++ [attempt]) = numbers attempts := by
        simp [numbers_append, numbered]
      have toldSame : (attempts ++ [attempt]).flatMap Attempt.told = attempts.flatMap Attempt.told := by
        simp [heard]
      refine { row := ?_, low := ?_, level := ?_, silent := ?_, others }
      · rw [numbersSame]
        exact gapless.row
      · rw [numbersSame, counted]
        exact low
      · rw [numbersSame, toldSame, counted]
        exact gapless.level
      · rw [numbersSame, toldSame]
        exact gapless.silent
  | back floor =>
      have numbersSame : numbers (attempts ++ [attempt]) = numbers attempts := by
        simp [numbers_append, numbered]
      refine .told (by simp [heard]) ?_ ?_ others
      · rw [numbersSame]
        exact gapless.row
      · rw [numbersSame, counted, next floor heard]
  | on floor =>
      have top := next floor heard
      have grown : numbers (attempts ++ [attempt]) =
          numbers attempts ++ [first + (numbers attempts).length] := by
        simp [numbers_append, numbered, top]
      have length : (numbers (attempts ++ [attempt])).length = (numbers attempts).length + 1 := by
        rw [grown, List.length_append, List.length_singleton]
      refine .told (by simp [heard]) ?_ ?_ others
      · rw [length, grown, List.range'_concat, ← gapless.row, Nat.one_mul]
      · rw [length, counted, top, Nat.add_assoc]

theorem inTurn_cons (ledger : Ledger σ) (finds : σ) (rest : List (Order × σ)) (world : World σ) :
    tracker.inTurn ledger ((order, finds) :: rest) world =
      ((tracker.carryOut ledger order { world with ledger := finds }).1 ::
          (tracker.inTurn ledger rest
            (tracker.carryOut ledger order { world with ledger := finds }).2).1,
        (tracker.inTurn ledger rest
          (tracker.carryOut ledger order { world with ledger := finds }).2).2) := rfl

theorem Gapless.inTurn (steady : ledger.Steady) (tracker : Tracker) (visits : List (Order × σ))
    {world : World σ}
    (gapless : Gapless account first start attempts world.book)
    (own : ∀ visit ∈ visits, visit.1.signer.address = account)
    (fits : ∀ visit ∈ visits, AppData.baseGas +
      (AppData.idLength + visit.1.payload.length) * AppData.byteGas < Checked.limit 64)
    (inStep : InStep first (attempts ++ (tracker.inTurn ledger visits world).1)) :
    Gapless account first start (attempts ++ (tracker.inTurn ledger visits world).1)
      (tracker.inTurn ledger visits world).2.book := by
  induction visits generalizing attempts world with
  | nil =>
      rw [Tracker.inTurn, List.append_nil]
      exact gapless
  | cons visit rest ih =>
      obtain ⟨order, finds⟩ := visit
      obtain rfl : order.signer.address = account := own _ List.mem_cons_self
      obtain ⟨moves, others⟩ := carryOut_moves steady tracker order
        (fits (order, finds) List.mem_cons_self) { world with ledger := finds }
      rw [inTurn_cons, List.append_cons] at inStep ⊢
      exact ih (gapless.step moves others inStep.earlier)
        (fun visit later => own visit (List.mem_cons_of_mem _ later))
        (fun visit later => fits visit (List.mem_cons_of_mem _ later)) inStep

/-- Where submissions of one account do not overlap, the nonces that the tracker chose for those that
were accepted are consecutive and begin with the first one that the ledger told, as long as the ledger
tells of none beyond those that were used. Wherever a submission failed, the next one draws the nonce
that this one would have used; other accounts are not concerned. -/
theorem nonces_have_no_gaps (steady : ledger.Steady) (tracker : Tracker)
    (visits : List (Order × σ)) (world last : World σ) (attempts : List Attempt) (account : Address)
    (first : Nat) (own : ∀ visit ∈ visits, visit.1.signer.address = account)
    (fits : ∀ visit ∈ visits, AppData.baseGas +
      (AppData.idLength + visit.1.payload.length) * AppData.byteGas < Checked.limit 64)
    (fresh : world.book.next account ≤ first)
    (ran : tracker.inTurn ledger visits world = (attempts, last)) (inStep : InStep first attempts) :
    numbers attempts = List.range' first (numbers attempts).length ∧
      (attempts.flatMap Attempt.told ≠ [] →
        last.book.next account = first + (numbers attempts).length) ∧
      ∀ other, other ≠ account → last.book.peek other = world.book.peek other := by
  have begun : Gapless account first world.book [] world.book :=
    { row := rfl
      low := fresh
      level := fun told => absurd rfl told
      silent := fun _ => rfl
      others := fun _ _ => rfl }
  have gapless := begun.inTurn steady tracker visits own fits
  rw [ran, List.nil_append] at gapless
  exact ⟨(gapless inStep).row, (gapless inStep).level, (gapless inStep).others⟩

theorem chain_ledger_steady [Chain.Surroundings] : Chain.ledger.Steady := by
  intro call origin chain
  change ¬ BreaksDown (chain.answer call).1
  unfold Chain.answer
  split
  · exact not_false
  · split <;> exact not_false

/-- The ledger in memory is in step with every succession of submissions: it tells nothing but the
nonce of an unused account. -/
theorem chain_inStep [Chain.Surroundings] (tracker : Tracker) (visits : List (Order × Chain))
    (world : World Chain) : InStep 0 (tracker.inTurn Chain.ledger visits world).1 := by
  have zero : ∀ attempt ∈ (tracker.inTurn Chain.ledger visits world).1,
      ∀ pending ∈ attempt.told, pending = 0 := by
    induction visits generalizing world with
    | nil => exact fun _ listed => absurd listed List.not_mem_nil
    | cons visit rest ih =>
        intro attempt listed pending told
        obtain rfl | later := List.mem_cons.mp listed
        · obtain ⟨exchange, taken, heard⟩ := List.mem_filterMap.mp told
          obtain ⟨before, after, served⟩ := Program.served_of_mem_transcript taken
          obtain ⟨step, reply⟩ := exchange
          unfold Exchange.told? at heard
          split at heard
          · next account answer asked =>
              cases asked
              cases heard
              have answered : (before.ledger.answer (.pendingNonce account)).1 = .ok pending :=
                congrArg Prod.fst served
              exact Chain.answer_pendingNonce (Prod.ext answered rfl)
          · cases heard
        · exact ih _ attempt later pending told
  refine ⟨fun pending found => ?_, fun before attempt after split pending told => ?_⟩
  · obtain ⟨attempt, listed, told⟩ := List.mem_flatMap.mp (List.mem_of_head? found)
    exact zero attempt listed pending told
  · have listed : attempt ∈ (tracker.inTurn Chain.ledger visits world).1 := by simp [split]
    rw [zero attempt listed pending told]
    exact Nat.zero_le _

/-- Three submissions, of which the ledger turns the second one away. -/
def retried (signer : Signer) : List (Order × Chain) :=
  [(errand signer 0, .fresh), (errand signer 1, rejecting 0), (errand signer 1, .fresh)]

theorem carryOut_of_takes {σ : Type} {ledger : Ledger σ} {tracker : Tracker} {order : Order}
    {exchanges : List Exchange} {outcome : Except Fault Submission} {world after : World σ}
    (takes : (tracker.submit order.signer order.payload order.options).Takes exchanges outcome)
    (serves : world.Serves ledger exchanges after) :
    ∃ steps, tracker.carryOut ledger order world = (⟨order, steps, outcome⟩, after) := by
  obtain ⟨ended, left⟩ := takes.alone serves 0
  exact ⟨_, by rw [← ended, ← left]; rfl⟩

theorem inTurn_of_carryOut {σ : Type} {ledger : Ledger σ} {tracker : Tracker} {order : Order}
    {attempt : Attempt} {rest : List (Order × σ)} {before finds : σ} {book : NonceBook}
    {metrics : Metrics} {after : World σ}
    (carried : tracker.carryOut ledger order ⟨finds, book, metrics⟩ = (attempt, after)) :
    tracker.inTurn ledger ((order, finds) :: rest) ⟨before, book, metrics⟩ =
      (attempt :: (tracker.inTurn ledger rest after).1, (tracker.inTurn ledger rest after).2) := by
  rw [inTurn_cons, carried]

section

variable {signer : Signer} {number : UInt8} {signed : SignedTransaction} {book : NonceBook}

/-- A ledger that takes everything takes an errand whose number is next. -/
theorem carryOut_taken (done : (letter signer number).sign = .ok signed)
    (level : book.next signer.address = number.toNat) (metrics : Metrics) :
    ∃ attempt left counted,
      usual.carryOut Chain.ledger (errand signer number) ⟨.fresh, book, metrics⟩ =
        (attempt, ⟨left, book.set signer.address (number.toNat + 1), counted⟩) ∧
      attempt.number? = some number.toNat := by
  obtain ⟨after, takes, served⟩ := errand_taken done book level metrics
  obtain ⟨steps, carried⟩ :=
    @carryOut_of_takes _ _ usual (errand signer number) _ _ _ _ takes served
  exact ⟨_, _, _, carried, congrArg some ((errand_comesTo signer number).named done).2⟩

theorem carryOut_turnedAway (done : (letter signer number).sign = .ok signed)
    (level : book.next signer.address = number.toNat) (metrics : Metrics) :
    ∃ attempt left counted,
      usual.carryOut Chain.ledger (errand signer number) ⟨rejecting 0, book, metrics⟩ =
        (attempt, ⟨rejecting 1, left, counted⟩) ∧
      attempt.number? = none ∧ left.next signer.address = number.toNat := by
  have given : (book.set signer.address (number.toNat + 1)).release signer.address number.toNat =
      (.ok true, _) :=
    NonceBook.release_top NonceBook.next_set_self (Nat.lt_of_le_of_lt number.toNat_lt (by decide))
  have drawn : World.Serves Chain.ledger ⟨rejecting 0, book, metrics⟩
      (drawing signer.address 1 1000000000 0 number.toNat)
      ⟨rejecting 1, book.set signer.address (number.toNat + 1), metrics⟩ :=
    drawing_served rfl (reserve_letter book signer.address number level)
  have takes := submit_takes_refused (errand_comesTo signer number) done 1 0 turningAway_unknown true
  obtain ⟨steps, carried⟩ := carryOut_of_takes takes (drawn.append (returning_served given))
  exact ⟨_, _, _, carried, rfl, NonceBook.next_set_self⟩

end

/-- The second submission is turned away, and the third one uses its nonce. -/
theorem retried_submissions_leave_no_gap :
    (∀ visit ∈ retried default, visit.1.signer.address = (default : Signer).address) ∧
    (∀ visit ∈ retried default, AppData.baseGas +
      (AppData.idLength + visit.1.payload.length) * AppData.byteGas < Checked.limit 64) ∧
    InStep 0 (usual.inTurn Chain.ledger (retried default) refusing).1 ∧
    numbers (usual.inTurn Chain.ledger (retried default) refusing).1 = [0, 1] := by
  -- The address is not to be computed from here on.
  have signed := letters_signed
  generalize (default : Signer) = signer at signed ⊢
  obtain ⟨first, second, firstDone, secondDone⟩ := signed
  have own : ∀ visit ∈ retried signer, visit.1.signer.address = signer.address := by
    simp [retried, errand]
  have fits : ∀ visit ∈ retried signer, AppData.baseGas +
      (AppData.idLength + visit.1.payload.length) * AppData.byteGas < Checked.limit 64 := by
    simp [retried, errand, AppData.baseGas, AppData.idLength, AppData.byteGas, Checked.limit]
  have inStep := chain_inStep usual (retried signer) refusing
  have row := (nonces_have_no_gaps chain_ledger_steady usual (retried signer) refusing _ _
    signer.address 0 own fits (Nat.le_refl 0) (Prod.eta _).symm inStep).1
  have two : (numbers (usual.inTurn Chain.ledger (retried signer) refusing).1).length = 2 := by
    have unused : NonceBook.empty.next signer.address = UInt8.toNat 0 := rfl
    obtain ⟨one, chain, counted, carried, taken⟩ := carryOut_taken firstDone unused .empty
    have next : (NonceBook.empty.set signer.address (UInt8.toNat 0 + 1)).next signer.address =
        UInt8.toNat 1 := NonceBook.next_set_self
    obtain ⟨other, book, countedToo, carriedToo, failed, level⟩ :=
      carryOut_turnedAway secondDone next counted
    obtain ⟨last, after, countedLast, carriedLast, takenLast⟩ :=
      carryOut_taken secondDone level countedToo
    rw [retried, refusing, inTurn_of_carryOut carried, inTurn_of_carryOut carriedToo,
      inTurn_of_carryOut carriedLast]
    simp only [numbers, List.filterMap_cons, taken, failed, takenLast]
    rfl
  rw [two] at row
  exact ⟨own, fits, inStep, row⟩

end Tracker

end Notary
