import Notary.Proofs.Nonces.Uniqueness
import Notary.Proofs.Program.Exchange
import Notary.Proofs.Wire.Signed

namespace Notary

/-!
A submission that gets as far as its broadcast, step by step: it learns the height, the price and the
nonce of its account, draws a nonce and sends what it has signed. Then it keeps the nonce, or gives it
back where the ledger turned the transaction away.
-/

namespace Tracker

/-- The steps of a submission until it holds its nonce. -/
def drawing (account : Address) (height price pending nonce : Nat) : List Exchange :=
  [⟨.ask .blockNumber, .ok (height : Nat)⟩, ⟨.ask .gasPrice, .ok (price : Nat)⟩,
    ⟨.ask (.pendingNonce account), .ok (pending : Nat)⟩, ⟨.reserve account pending, .ok nonce⟩]

/-- The steps of a submission whose transaction is taken. -/
def keeping (raw : Bytes) (hash : Hash) : List Exchange :=
  [⟨.ask (.sendRaw raw), .ok hash⟩, ⟨.note (.submissions "accepted"), ()⟩]

/-- The steps of a submission whose transaction is turned away, and that gives its nonce back. -/
def returning (raw : Bytes) (refusal : Error) (account : Address) (nonce : Nat) (taken : Bool) :
    List Exchange :=
  [⟨.ask (.sendRaw raw), .error (.failure refusal)⟩, ⟨.release account nonce, .ok taken⟩,
    ⟨.note (.submissions "failed"), ()⟩]

/-- The parcel that an order comes to which finds this price and draws this nonce. -/
inductive ComesTo (tracker : Tracker) (order : Order) (price nonce : Nat) : Parcel → Prop
  | intro {offered dataLength gasLimit : Nat} (managed : order.options.nonce = none)
      (priced : tracker.offeredPrice price = .ok offered)
      (sized : Checked.add 64 AppData.idLength order.payload.length = .ok dataLength)
      (limited : AppData.gasLimit dataLength = .ok gasLimit) :
      ComesTo tracker order price nonce
        ⟨order.signer, order.payload, order.options.appId, ⟨tracker.chainId, nonce, offered, gasLimit,
          tracker.recipientFor order.signer.address⟩⟩

/-- The submission of an order that was signed so. -/
def submissionOf (tracker : Tracker) (order : Order) (height : Nat) (signed : SignedTransaction) :
    Submission where
  transaction := signed
  payloadLength := order.payload.length
  submittedAt := height
  mortalityBlocks := order.options.mortalityBlocks <|> tracker.submission.mortalityBlocks

variable {tracker : Tracker} {order : Order} {options : SubmitOptions} {parcel : Parcel}
  {signed : SignedTransaction} {price nonce : Nat} {refusal : Error}

theorem ComesTo.managed (comes : tracker.ComesTo order price nonce parcel) :
    order.options.nonce = none := by
  obtain ⟨managed, -, -, -⟩ := comes
  exact managed

/-- What is signed names its sender and its nonce. -/
theorem ComesTo.named (comes : tracker.ComesTo order price nonce parcel)
    (done : parcel.sign = .ok signed) :
    signed.sender = order.signer.address ∧ signed.nonce = nonce := by
  obtain ⟨-, -, -, -⟩ := comes
  exact Signer.seal_ok done

theorem broadcast_takes_accepted (options : SubmitOptions) (signed : SignedTransaction) (hash : Hash) :
    (broadcast options signed).Takes [⟨.ask (.sendRaw signed.raw), .ok hash⟩] (.ok ()) :=
  Task.takes_ask.attempt.bind Task.takes_settled

theorem broadcast_takes_refused (managed : options.nonce = none)
    (unknown : Rejection.isAlreadyKnown refusal.message = false) (taken : Bool) :
    (broadcast options signed).Takes
      [⟨.ask (.sendRaw signed.raw), .error (.failure refusal)⟩,
        ⟨.release signed.sender signed.nonce, .ok taken⟩]
      (.error (.failure (asBroadcast refusal))) := by
  have given : (giveBack signed.sender options signed.nonce).Takes
      [⟨.release signed.sender signed.nonce, .ok taken⟩] (.ok ()) := by
    unfold giveBack
    rw [managed]
    exact .step (.nothing _)
  unfold broadcast
  refine Task.takes_ask.attempt.bind ?_
  simp only [unknown]
  exact given.bind Task.takes_settled

theorem prepare_takes (comes : tracker.ComesTo order price nonce parcel) (pending : Nat) :
    (tracker.prepare order.signer.address order.payload.length order.options).Takes
      [⟨.ask .gasPrice, .ok (price : Nat)⟩,
        ⟨.ask (.pendingNonce order.signer.address), .ok (pending : Nat)⟩,
        ⟨.reserve order.signer.address pending, .ok nonce⟩]
      (.ok parcel.terms) := by
  obtain @⟨offered, dataLength, gasLimit, managed, priced, sized, limited⟩ := comes
  have payable : (Task.ofResult (tracker.offeredPrice price)).Takes [] (.ok offered) := by
    rw [priced]
    exact .nothing _
  have chosen : (chooseNonce order.signer.address order.options).Takes
      [⟨.ask (.pendingNonce order.signer.address), .ok (pending : Nat)⟩,
        ⟨.reserve order.signer.address pending, .ok nonce⟩] (.ok nonce) := by
    unfold chooseNonce
    rw [managed]
    exact Task.takes_ask.bind (.step (.nothing _))
  unfold prepare
  refine Task.takes_ask.bind (payable.bind (chosen.bind ?_))
  rw [sized]
  refine Task.takes_settled.bind ?_
  rw [limited]
  exact Task.takes_settled.bind Task.takes_settled

/-- A submission that can be signed ends as its broadcast does. -/
theorem attemptSubmit_takes (comes : tracker.ComesTo order price nonce parcel)
    (done : parcel.sign = .ok signed) (height pending : Nat) {ending : List Exchange}
    {outcome : Except Fault Unit} (sent : (broadcast order.options signed).Takes ending outcome) :
    (tracker.attemptSubmit order.signer order.payload order.options).Takes
      (drawing order.signer.address height price pending nonce ++ ending)
      (outcome.map fun _ => tracker.submissionOf order height signed) := by
  have opened : (Task.mapFailure asBroadcast (Task.ask .blockNumber)).Takes
      [⟨.ask .blockNumber, .ok (height : Nat)⟩] (.ok height) := Task.takes_ask.mapFailure asBroadcast
  have prepared := (prepare_takes comes pending).mapFailure asBroadcast
  obtain ⟨-, -, -, -⟩ := comes
  unfold attemptSubmit
  refine opened.bind (prepared.bind ?_)
  have made : order.signer.signPayload order.payload order.options.appId _ = .ok signed := done
  simp only [made]
  cases outcome with
  | error fault => exact sent.bind_error
  | ok accepted =>
      rw [← List.append_nil ending]
      exact sent.bind Task.takes_settled

theorem submit_takes_accepted (comes : tracker.ComesTo order price nonce parcel)
    (done : parcel.sign = .ok signed) (height pending : Nat) (hash : Hash) :
    (tracker.submit order.signer order.payload order.options).Takes
      (drawing order.signer.address height price pending nonce ++ keeping signed.raw hash)
      (.ok (tracker.submissionOf order height signed)) := by
  have sent := attemptSubmit_takes comes done height pending
    (broadcast_takes_accepted order.options signed hash)
  have counted : (tracker.submit order.signer order.payload order.options).Takes
      (drawing order.signer.address height price pending nonce ++
          [⟨.ask (.sendRaw signed.raw), .ok hash⟩] ++ [⟨.note (.submissions "accepted"), ()⟩])
      (.ok (tracker.submissionOf order height signed)) := by
    unfold submit
    exact sent.attempt.bind (.step (.nothing _))
  rw [List.append_assoc] at counted
  exact counted

theorem submit_takes_refused (comes : tracker.ComesTo order price nonce parcel)
    (done : parcel.sign = .ok signed) (height pending : Nat)
    (unknown : Rejection.isAlreadyKnown refusal.message = false) (taken : Bool) :
    (tracker.submit order.signer order.payload order.options).Takes
      (drawing order.signer.address height price pending nonce ++
        returning signed.raw refusal order.signer.address nonce taken)
      (.error (.failure (asBroadcast refusal))) := by
  obtain ⟨sender, number⟩ := comes.named done
  have turned := attemptSubmit_takes comes done height pending
    (broadcast_takes_refused comes.managed unknown taken)
  rw [sender, number] at turned
  have counted : (tracker.submit order.signer order.payload order.options).Takes
      (drawing order.signer.address height price pending nonce ++
          [⟨.ask (.sendRaw signed.raw), .error (.failure refusal)⟩,
            ⟨.release order.signer.address nonce, .ok taken⟩] ++
        [⟨.note (.submissions "failed"), ()⟩])
      (.error (.failure (asBroadcast refusal))) := by
    unfold submit
    exact turned.attempt.bind (.step (.nothing _))
  rw [List.append_assoc] at counted
  exact counted

/-! The ledger in memory serves these steps. It tells no nonce but the first. -/

section

variable [Chain.Surroundings] {chain : Chain} {book left : NonceBook} {metrics : Metrics}
  {account : Address}

theorem drawing_served (reachable : chain.unreachable = false)
    (drawn : book.reserve account 0 = (.ok nonce, left)) :
    World.Serves Chain.ledger ⟨chain, book, metrics⟩
      (drawing account (chain.head + 1) chain.gasPrice 0 nonce) ⟨chain.mine, left, metrics⟩ := by
  have mined : chain.mine.unreachable = false := reachable
  have height : chain.answer .blockNumber = (.ok (chain.head + 1), chain.mine) := by
    simp only [Chain.answer, reachable]
    rfl
  have price : chain.mine.answer .gasPrice = (.ok chain.gasPrice, chain.mine) := by
    simp only [Chain.answer, mined]
    rfl
  have pending : chain.mine.answer (.pendingNonce account) = (.ok (0 : Nat), chain.mine) := by
    simp only [Chain.answer, mined]
    rfl
  exact .step (World.serve_answer height) (.step (World.serve_answer price)
    (.step (World.serve_answer pending) (.step (World.serve_reserve drawn) (.nothing _))))

/-- A chain that turns nothing away takes what an order comes to, if it has not taken it before. -/
theorem taking_served (fits : parcel.Fits) (done : parcel.sign = .ok signed)
    (reachable : chain.unreachable = false) (accepting : chain.rejection = none)
    (fresh : signed.hash ∉ chain.hashes) (drawn : book.reserve account 0 = (.ok nonce, left))
    (metrics : Metrics) :
    ∃ after : Chain, after.broadcasts = chain.broadcasts ++ [parcel.filed signed.hash] ∧
      World.Serves Chain.ledger ⟨chain, book, metrics⟩
        (drawing account (chain.head + 1) chain.gasPrice 0 nonce ++ keeping signed.raw signed.hash)
        ⟨after, left, metrics.increment (.submissions "accepted")⟩ := by
  have mined : chain.mine.unreachable = false := reachable
  have taken := Parcel.answer_sign fits done mined accepting fresh
  have kept : World.Serves Chain.ledger ⟨chain.mine, left, metrics⟩ (keeping signed.raw signed.hash) _ :=
    .step (World.serve_answer taken) (.step rfl (.nothing _))
  exact ⟨_, rfl, (drawing_served reachable drawn).append kept⟩

end

/-! Submissions to the ledger in memory that set nothing, one byte each. -/

/-- The tracker of a configuration that sets nothing. -/
def usual : Tracker :=
  ⟨Chain.ownChainId, none, {}, {}⟩

def errand (signer : Signer) (byte : UInt8) : Order :=
  ⟨signer, [byte], ⟨0, none, none⟩⟩

/-- The parcel of an errand that draws the nonce that it carries. -/
def letter (signer : Signer) (number : UInt8) : Parcel :=
  ⟨signer, [number], 0, ⟨Chain.ownChainId, number.toNat, 1200000000, 21080, signer.address⟩⟩

theorem errand_comesTo (signer : Signer) (number : UInt8) :
    usual.ComesTo (errand signer number) 1000000000 number.toNat (letter signer number) := by
  have priced : usual.offeredPrice 1000000000 = .ok 1200000000 := by decide +kernel
  have sized : Checked.add 64 AppData.idLength [number].length = .ok 5 := rfl
  exact .intro rfl priced sized rfl

theorem letter_fits (signer : Signer) (number : UInt8) : (letter signer number).Fits where
  payload := (by decide : 1 < Checked.limit 63)
  appId := (by decide : 0 < Checked.limit 32)
  chainId := (by decide : Chain.ownChainId < Checked.limit 64)
  nonce := Nat.lt_trans number.toNat_lt (by decide)
  gasPrice := (by decide : 1200000000 < Checked.limit 128)
  gasLimit := (by decide : 21080 < Checked.limit 64)

theorem reserve_letter (book : NonceBook) (account : Address) (number : UInt8)
    (level : book.next account = number.toNat) :
    book.reserve account 0 = (.ok number.toNat, book.set account (number.toNat + 1)) := by
  have fits : number.toNat + 1 < Checked.limit 64 := Nat.lt_of_le_of_lt number.toNat_lt (by decide)
  rw [NonceBook.reserve_of_fits, level, Nat.max_zero]
  rwa [level, Nat.max_zero]

/-- A fresh ledger takes an errand whose number is next. -/
theorem errand_taken {signer : Signer} {number : UInt8} (done : (letter signer number).sign = .ok signed)
    (book : NonceBook) (level : book.next signer.address = number.toNat) (metrics : Metrics) :
    ∃ after : Chain,
      (usual.submit signer [number] ⟨0, none, none⟩).Takes
        (drawing signer.address 1 1000000000 0 number.toNat ++ keeping signed.raw signed.hash)
        (.ok (usual.submissionOf (errand signer number) 1 signed)) ∧
      World.Serves Chain.ledger ⟨.fresh, book, metrics⟩
        (drawing signer.address 1 1000000000 0 number.toNat ++ keeping signed.raw signed.hash)
        ⟨after, book.set signer.address (number.toNat + 1),
          metrics.increment (.submissions "accepted")⟩ := by
  have drawn := reserve_letter book signer.address number level
  obtain ⟨after, -, served⟩ := taking_served (letter_fits signer number) done
    (rfl : Chain.fresh.unreachable = false) rfl List.not_mem_nil drawn metrics
  exact ⟨after, submit_takes_accepted (errand_comesTo signer number) done 1 0 signed.hash, served⟩

theorem default_address : (default : Signer).address =
    ⟨0x7e5f4552091a69125d5dfcb7b8c2659029395bdf⟩ := by
  decide +kernel

/-- What the signer with the key 1 sends to itself is signed, if the curve gives a signature. -/
theorem signed_to_self {payload : Bytes} {appId chainId nonce price limit : Nat}
    (made : (Secp256k1.sign default
      ((Transaction.ofPayload appId payload ⟨chainId, nonce, price, limit,
        ⟨0x7e5f4552091a69125d5dfcb7b8c2659029395bdf⟩⟩).signingDigest chainId)).isSome = true) :
    ∃ signed, Parcel.sign ⟨default, payload, appId,
      ⟨chainId, nonce, price, limit, (default : Signer).address⟩⟩ = .ok signed := by
  refine Parcel.sign_of_signature ?_
  rw [default_address]
  exact made

theorem first_letter_signed : ∃ signed, (letter default 0).sign = .ok signed :=
  signed_to_self (by decide +kernel)

theorem second_letter_signed : ∃ signed, (letter default 1).sign = .ok signed :=
  signed_to_self (by decide +kernel)

theorem letters_signed : ∃ first second,
    (letter default 0).sign = .ok first ∧ (letter default 1).sign = .ok second :=
  first_letter_signed.elim fun first firstDone =>
    second_letter_signed.elim fun second secondDone => ⟨first, second, firstDone, secondDone⟩

end Tracker

end Notary
