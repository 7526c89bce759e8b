import Notary.Proofs.Delivery.Broadcasts
import Notary.Proofs.Nonces.Book
import Notary.Proofs.Nonces.Tenure

namespace Notary

/-!
A submission to the ledger in memory. It ends with its transaction among those that were taken, or
with a failure before which nothing was taken; nothing that happens after the transaction was taken
can make the submission fail.
-/

theorem NonceBook.release_eq_error {book after : NonceBook} {account : Address} {nonce : Nat}
    {fault : Fault} (failed : book.release account nonce = (.error fault, after)) :
    ∃ message, fault = .breakdown message := by
  unfold release at failed
  split at failed
  · cases failed
  · split at failed
    · next added =>
        cases failed
        exact Checked.add_eq_error added
    · split at failed <;> cases failed

theorem Signer.seal_names {signer : Signer} {tx : Transaction} {appId chainId : Nat}
    {signature : Option Secp256k1.Signature} {signed : SignedTransaction}
    (done : signer.seal tx appId chainId signature = .ok signed) :
    signed.hash = Keccak.hash signed.raw ∧ signed.appId = appId := by
  cases signature with
  | none => cases done
  | some signature =>
      cases done
      exact ⟨rfl, rfl⟩

theorem Signer.seal_eq_error {signer : Signer} {tx : Transaction} {appId chainId : Nat}
    {signature : Option Secp256k1.Signature} {e : Error}
    (failed : signer.seal tx appId chainId signature = .error e) : ∃ reason, e = .signing reason := by
  cases signature with
  | none =>
      cases failed
      exact ⟨_, rfl⟩
  | some signature => cases failed

namespace Tracker

variable {α β : Type} {origin : Chain} {known : World Chain → Prop} {tracker : Tracker}
  {account : Address} {options : SubmitOptions} {nonce : Nat}

/-- The nonce is the caller's own, or the book will not give it out again. -/
def Booked (account : Address) (options : SubmitOptions) (nonce : Nat) (book : NonceBook) : Prop :=
  match options.nonce with
  | some own => nonce = own
  | none => nonce < book.next account

/-- The failures with which a submission ends. -/
def Refuses : Error → Prop
  | .broadcast _ | .signing _ => True
  | _ => False

theorem asBroadcast_refuses (e : Error) : Refuses (asBroadcast e) := by
  cases e <;> trivial

/-- How work on a submission ends: with a result that is accepted, or with a failure before which the
chain took nothing. -/
def Ends (origin : Chain) (blames : Error → Prop) (accepts : α → World Chain → Prop) :
    Except Fault α → World Chain → Prop
  | .ok result, world => accepts result world
  | .error (.failure e), world => origin.Alike world.ledger ∧ blames e
  | .error (.breakdown _), _ => True

def Unmoved (origin : Chain) (world : World Chain) : Prop :=
  origin.Alike world.ledger

variable [Chain.Surroundings]

theorem ends_bind {blames : Error → Prop} {middle : α → World Chain → Prop}
    {accepts : β → World Chain → Prop} {task : Task α} {f : α → Task β}
    (first : Task.Leads Chain.ledger known (Ends origin blames middle) task)
    (rest : ∀ result, Task.Leads Chain.ledger (middle result) (Ends origin blames accepts) (f result)) :
    Task.Leads Chain.ledger known (Ends origin blames accepts) (task >>= f) := by
  refine Task.Leads.bind first rest fun fault world ended => ?_
  cases fault <;> exact ended

theorem ends_asBroadcast {accepts : α → World Chain → Prop} {task : Task α}
    (leads : Task.Leads Chain.ledger known (Ends origin (fun _ => True) accepts) task) :
    Task.Leads Chain.ledger known (Ends origin Refuses accepts) (task.mapFailure asBroadcast) := by
  refine Task.Leads.mapFailure (leads.mono fun outcome world ended => ?_)
  rcases outcome with (e | message) | result
  · exact ⟨ended.1, asBroadcast_refuses e⟩
  · trivial
  · exact ended

theorem settled_ends {outcome : Except Fault α} (unmoved : ∀ world, known world → Unmoved origin world) :
    Task.Leads Chain.ledger known (Ends origin (fun _ => True) fun _ => known)
      (Task.settled outcome) := by
  refine Task.leads_settled fun world here => ?_
  rcases outcome with (e | message) | result
  · exact ⟨unmoved world here, trivial⟩
  · trivial
  · exact here

theorem ask_ends {call : Call} (sends : ∀ raw, call ≠ .sendRaw raw) :
    Task.Leads Chain.ledger (Unmoved origin) (Ends origin (fun _ => True) fun _ => Unmoved origin)
      (Task.ask call) := by
  refine Task.leads_ask fun world here reply state asked => ?_
  have alike : origin.Alike state := by
    obtain ⟨-, rfl⟩ := Prod.mk.inj asked
    exact here.trans (Chain.answer_alike sends)
  rcases reply with (e | message) | result
  · exact ⟨alike, trivial⟩
  · trivial
  · exact alike

theorem chooseNonce_ends :
    Task.Leads Chain.ledger (Unmoved origin) (Ends origin (fun _ => True) fun nonce world =>
      Unmoved origin world ∧ Booked account options nonce world.book) (chooseNonce account options) := by
  unfold chooseNonce Booked
  cases options.nonce with
  | some own => exact Task.leads_pure fun world here => ⟨here, rfl⟩
  | none =>
      refine ends_bind (ask_ends fun _ => nofun) fun pending => ?_
      refine Task.leads_reserve fun world here reply book reserved => ?_
      rcases reply with (e | message) | nonce
      · exact ⟨here, trivial⟩
      · trivial
      · obtain ⟨-, rfl⟩ := NonceBook.reserve_ok reserved
        refine ⟨here, ?_⟩
        rw [NonceBook.next_set_self]
        exact Nat.lt_succ_self nonce

/-- The terms name the tracker's chain and its recipient, with a nonce that is spent. -/
def Termed (tracker : Tracker) (account : Address) (options : SubmitOptions) (terms : Terms)
    (book : NonceBook) : Prop :=
  terms.chainId = tracker.chainId ∧ terms.recipient = tracker.recipientFor account ∧
    Booked account options terms.nonce book

theorem prepare_ends {length : Nat} :
    Task.Leads Chain.ledger (Unmoved origin) (Ends origin (fun _ => True) fun terms world =>
      Unmoved origin world ∧ Termed tracker account options terms world.book)
      (tracker.prepare account length options) := by
  unfold prepare
  refine ends_bind (ask_ends fun _ => nofun) fun reported => ?_
  have priced : Task.Leads Chain.ledger (Unmoved origin)
      (Ends origin (fun _ => True) fun _ => Unmoved origin)
      (Task.ofResult (tracker.offeredPrice reported)) := by
    refine Task.leads_ofResult fun world here => ?_
    cases tracker.offeredPrice reported with
    | error e => exact ⟨here, trivial⟩
    | ok gasPrice => exact here
  refine ends_bind priced fun gasPrice => ends_bind chooseNonce_ends fun nonce => ?_
  refine ends_bind (settled_ends fun world here => here.1) fun dataLength => ?_
  refine ends_bind (settled_ends fun world here => here.1) fun gasLimit => ?_
  exact Task.leads_pure fun world here => ⟨here.1, rfl, rfl, here.2⟩

/-- Giving a nonce back does not fail, and the chain hears nothing of it. -/
theorem giveBack_ends :
    Task.Leads Chain.ledger (Unmoved origin)
      (Ends origin (fun _ => False) fun _ => Unmoved origin) (giveBack account options nonce) := by
  unfold giveBack
  cases options.nonce with
  | some own => exact Task.leads_pure fun world here => here
  | none =>
      have released : Task.Leads Chain.ledger (Unmoved origin)
          (Ends origin (fun _ => False) fun _ => Unmoved origin) (Task.release account nonce) := by
        refine Task.leads_release fun world here reply book released => ?_
        cases reply with
        | ok returned => exact here
        | error fault =>
            obtain ⟨message, rfl⟩ := NonceBook.release_eq_error released
            trivial
      exact ends_bind released fun _ => Task.leads_pure fun world here => here

theorem giveBack_fail_ends {accepts : α → World Chain → Prop} {e : Error} (refuses : Refuses e) :
    Task.Leads Chain.ledger (Unmoved origin) (Ends origin Refuses accepts)
      (do giveBack account options nonce; Task.fail e) := by
  refine Task.Leads.bind giveBack_ends (fun _ => Task.leads_fail fun world here => ⟨here, refuses⟩) ?_
  rintro (e | message) world ended
  · exact ended.2.elim
  · trivial

variable {signed : SignedTransaction}

theorem broadcast_ends (kept : NonceBook → Prop) (distinct : origin.Distinct) (frank : origin.Frank)
    (named : signed.hash = Keccak.hash signed.raw) :
    Task.Leads Chain.ledger
      (fun world => Unmoved origin world ∧ kept world.book)
      (Ends origin Refuses fun _ world => world.ledger.HoldsOnce signed.hash ∧ kept world.book)
      (broadcast options signed) := by
  unfold broadcast
  have sent : Task.Leads Chain.ledger
      (fun world => Unmoved origin world ∧ kept world.book)
      (fun reply world => ∃ before, origin.Alike before ∧
        before.Offered signed.raw reply world.ledger ∧ kept world.book)
      (Task.ask (.sendRaw signed.raw)) := by
    refine Task.leads_ask fun world here reply state asked => ?_
    obtain ⟨rfl, rfl⟩ := Prod.mk.inj asked
    exact ⟨world.ledger, here.1, world.ledger.answer_offered signed.raw, here.2⟩
  refine sent.attempt_bind fun reply => ?_
  rcases reply with (e | message) | hash
  · by_cases said : Rejection.isAlreadyKnown e.message = true
    · simp only [said, if_true]
      rintro world ⟨before, alike, offered, booked⟩
      obtain ⟨left, known⟩ := offered.unlisted
      refine ⟨?_, booked⟩
      rw [left, named]
      exact (alike.distinct distinct).holdsOnce (known (alike.frank frank) said)
    · simp only [said]
      refine (giveBack_fail_ends (asBroadcast_refuses e)).of_known ?_
      rintro world ⟨before, alike, offered, booked⟩
      rw [Unmoved, offered.unlisted.1]
      exact alike
  · exact fun world here => trivial
  · rintro world ⟨before, alike, offered, booked⟩
    refine ⟨?_, booked⟩
    rw [named]
    exact (offered.distinct (alike.distinct distinct)).holdsOnce offered.listed

/-- The submission carries the payload in a transaction that was signed on fitting terms, and the
chain holds that transaction. -/
structure Carries (tracker : Tracker) (signer : Signer) (payload : Bytes) (options : SubmitOptions)
    (submission : Submission) (chain : Chain) (book : NonceBook) : Prop where
  length : submission.payloadLength = payload.length
  appId : submission.transaction.appId = options.appId
  sealed : ∃ terms, terms.chainId = tracker.chainId ∧
    terms.recipient = tracker.recipientFor signer.address ∧
    signer.signPayload payload options.appId terms = .ok submission.transaction
  held : chain.HoldsOnce submission.hash
  booked : Booked signer.address options submission.transaction.nonce book

variable {signer : Signer} {payload : Bytes}

theorem attemptSubmit_ends (distinct : origin.Distinct) (frank : origin.Frank) :
    Task.Leads Chain.ledger (Unmoved origin)
      (Ends origin Refuses fun submission world =>
        Carries tracker signer payload options submission world.ledger world.book)
      (tracker.attemptSubmit signer payload options) := by
  unfold attemptSubmit
  refine ends_bind (ends_asBroadcast (ask_ends fun _ => nofun)) fun submittedAt => ?_
  refine ends_bind (ends_asBroadcast prepare_ends) fun terms => ?_
  cases sealed : signer.signPayload payload options.appId terms with
  | error e =>
      obtain ⟨reason, rfl⟩ := Signer.seal_eq_error sealed
      have refuses : Refuses (.signing reason) := trivial
      exact (giveBack_fail_ends refuses).of_known fun world here => here.1
  | ok signed =>
      obtain ⟨named, appId⟩ := Signer.seal_names sealed
      refine ends_bind (broadcast_ends (Termed tracker signer.address options terms) distinct frank
        named) fun _ => Task.leads_pure fun world here => ?_
      obtain ⟨held, chainId, recipient, booked⟩ := here
      have nonce : signed.nonce = terms.nonce := (Signer.seal_ok sealed).2
      exact ⟨rfl, appId, ⟨terms, chainId, recipient, sealed⟩, held, nonce ▸ booked⟩

theorem submit_ends (distinct : origin.Distinct) (frank : origin.Frank) :
    Task.Leads Chain.ledger (Unmoved origin)
      (Ends origin Refuses fun submission world =>
        Carries tracker signer payload options submission world.ledger world.book)
      (tracker.submit signer payload options) := by
  unfold submit
  refine (attemptSubmit_ends distinct frank).attempt_bind fun reply => ?_
  rcases reply with (e | message) | submission
  · have noted : Task.Leads Chain.ledger (fun world => origin.Alike world.ledger ∧ Refuses e)
        (Ends origin Refuses fun _ world => origin.Alike world.ledger ∧ Refuses e)
        (Task.note (.submissions "failed")) := Task.leads_note fun world here => here
    exact ends_bind noted fun _ => Task.leads_fail fun world here => here
  · exact fun world here => trivial
  · have noted : Task.Leads Chain.ledger
        (fun world => Carries tracker signer payload options submission world.ledger world.book)
        (Ends origin Refuses fun _ world =>
          Carries tracker signer payload options submission world.ledger world.book)
        (Task.note (.submissions "accepted")) := Task.leads_note fun world here => here
    exact ends_bind noted fun _ => Task.leads_pure fun world here => here

end Tracker

end Notary
