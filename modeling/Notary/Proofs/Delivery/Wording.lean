import Notary.Proofs.Delivery.Relaying
import Notary.Proofs.Nonces.Tenure
import Notary.Proofs.Program.Answered

namespace Notary

/-!
What is made of a reason that a ledger gives when it turns a transaction away. It counts as acceptance
where one of the phrases stands anywhere in the text, also as the tail of another word.
-/

theorem Search.occursIn_iff {pattern text : List Char} :
    occursIn pattern text = true ↔ pattern <:+: text := by
  induction text with
  | nil => simp [occursIn]
  | cons c rest ih =>
      simp only [occursIn, Bool.or_eq_true, ih, List.isPrefixOf_iff_prefix, List.infix_cons_iff]

namespace Rejection

/-- One of the phrases stands somewhere in the text, in any letter case. -/
def Mentions (text : String) : Prop :=
  ∃ phrase ∈ alreadyKnownPhrases, phrase.toList <:+: Search.lower text

theorem isAlreadyKnown_iff {text : String} : isAlreadyKnown text = true ↔ Mentions text := by
  simp only [isAlreadyKnown, List.any_eq_true, Search.mentions, Search.occursIn_iff, Mentions]

theorem isAlreadyKnown_of_not {text : String} (unmentioned : ¬ Mentions text) :
    isAlreadyKnown text = false := by
  rw [Bool.eq_false_iff, ne_eq, isAlreadyKnown_iff]
  exact unmentioned

end Rejection

namespace Tracker

variable {tracker : Tracker} {signer : Signer} {payload : Bytes} {options : SubmitOptions}
  {reply : (step : Step) → step.Reply} {earlier : List Step} {height : Nat} {terms : Terms}
  {signed : SignedTransaction} {reason : String} {taken : Bool}

def sendReply (raw : Bytes) (reply : (step : Step) → step.Reply) : Except Fault Hash :=
  reply (.ask (.sendRaw raw))

def releaseReply (account : Address) (nonce : Nat) (reply : (step : Step) → step.Reply) :
    Except Fault Bool :=
  reply (.release account nonce)

/-- A submission gets as far as sending this transaction. -/
structure Sends (tracker : Tracker) (signer : Signer) (payload : Bytes) (options : SubmitOptions)
    (reply : (step : Step) → step.Reply) (earlier : List Step) (height : Nat) (terms : Terms)
    (signed : SignedTransaction) : Prop where
  headed : reply (.ask .blockNumber) = Except.ok height
  prepared : (tracker.prepare signer.address payload.length options).answered reply =
    (earlier, .ok terms)
  made : signer.signPayload payload options.appId terms = .ok signed

/-- The nonce goes back if it was drawn for the submission. -/
def returns (options : SubmitOptions) (account : Address) (nonce : Nat) : List Step :=
  if options.nonce.isNone then [.release account nonce] else []

theorem giveBack_answered {account : Address} {nonce : Nat}
    (returned : releaseReply account nonce reply = .ok taken) :
    (giveBack account options nonce).answered reply = (returns options account nonce, .ok ()) := by
  unfold giveBack returns
  cases options.nonce.isNone with
  | true =>
      have released : (Task.release account nonce).answered reply =
          ([.release account nonce], .ok taken) := by
        rw [← returned]
        rfl
      exact Task.answered_bind released rfl
  | false => rfl

theorem broadcast_of_mentions
    (refused : sendReply signed.raw reply = .error (.failure (.broadcast reason)))
    (mentions : Rejection.Mentions reason) :
    (broadcast options signed).answered reply = ([.ask (.sendRaw signed.raw)], .ok ()) := by
  have known : Rejection.isAlreadyKnown (Error.broadcast reason).message = true := by
    rw [Rejection.isAlreadyKnown_broadcast, Rejection.isAlreadyKnown_iff]
    exact mentions
  refine Task.answered_bind (Task.answered_attempt (Task.answered_ask refused)) ?_
  simp only [known, if_true]
  rfl

theorem broadcast_of_unmentioned
    (refused : sendReply signed.raw reply = .error (.failure (.broadcast reason)))
    (unmentioned : ¬ Rejection.Mentions reason)
    (returned : releaseReply signed.sender signed.nonce reply = .ok taken) :
    (broadcast options signed).answered reply =
      (.ask (.sendRaw signed.raw) :: returns options signed.sender signed.nonce,
        .error (.failure (.broadcast reason))) := by
  have unknown : Rejection.isAlreadyKnown (Error.broadcast reason).message = false := by
    rw [Rejection.isAlreadyKnown_broadcast]
    exact Rejection.isAlreadyKnown_of_not unmentioned
  refine Task.answered_bind (Task.answered_attempt (Task.answered_ask refused)) ?_
  simp only [unknown]
  refine (Task.answered_bind (giveBack_answered returned) Task.answered_fail).trans ?_
  rw [List.append_nil]
  rfl

/-- A submission does as its broadcast does. -/
theorem attemptSubmit_answered {steps : List Step} {outcome : Except Fault Unit}
    (sends : tracker.Sends signer payload options reply earlier height terms signed)
    (sent : (broadcast options signed).answered reply = (steps, outcome)) :
    (tracker.attemptSubmit signer payload options).answered reply =
      (.ask .blockNumber :: (earlier ++ steps), outcome.map fun _ =>
        ⟨signed, payload.length, height,
          options.mortalityBlocks <|> tracker.submission.mortalityBlocks⟩) := by
  refine Task.answered_bind (Task.answered_mapFailure (Task.answered_ask sends.headed)) ?_
  refine Task.answered_bind (Task.answered_mapFailure sends.prepared) ?_
  simp only [sends.made]
  cases outcome with
  | error fault => exact Task.answered_bind_error sent
  | ok _ =>
      rw [← List.append_nil steps]
      exact Task.answered_bind sent rfl

theorem submit_accepted {steps : List Step} {submission : Submission}
    (attempted : (tracker.attemptSubmit signer payload options).answered reply =
      (steps, .ok submission)) :
    (tracker.submit signer payload options).answered reply =
      (steps ++ [.note (.submissions "accepted")], .ok submission) :=
  Task.answered_bind (Task.answered_attempt attempted) rfl

theorem submit_failed {steps : List Step} {e : Error}
    (attempted : (tracker.attemptSubmit signer payload options).answered reply =
      (steps, .error (.failure e))) :
    (tracker.submit signer payload options).answered reply =
      (steps ++ [.note (.submissions "failed")], .error (.failure e)) :=
  Task.answered_bind (Task.answered_attempt attempted) rfl

/-- How a submission reads a reason that its transaction is turned away for. -/
def SubmitReads (reason : String) : Prop :=
  ∀ tracker signer payload options reply earlier height terms signed,
    Sends tracker signer payload options reply earlier height terms signed →
    sendReply signed.raw reply = .error (.failure (.broadcast reason)) →
    (Rejection.Mentions reason →
      (tracker.submit signer payload options).answered reply =
        (.ask .blockNumber :: (earlier ++ [.ask (.sendRaw signed.raw)]) ++
            [.note (.submissions "accepted")],
          .ok ⟨signed, payload.length, height,
            options.mortalityBlocks <|> tracker.submission.mortalityBlocks⟩)) ∧
    (¬ Rejection.Mentions reason → ∀ taken,
      releaseReply signer.address terms.nonce reply = .ok taken →
      (tracker.submit signer payload options).answered reply =
        (.ask .blockNumber :: (earlier ++
            .ask (.sendRaw signed.raw) :: returns options signer.address terms.nonce) ++
            [.note (.submissions "failed")],
          .error (.failure (.broadcast reason))))

theorem submit_reads (reason : String) : SubmitReads reason := by
  intro tracker signer payload options reply earlier height terms signed sends refused
  obtain ⟨sender, nonce⟩ : signed.sender = signer.address ∧ signed.nonce = terms.nonce :=
    Signer.seal_ok sends.made
  constructor
  · intro mentions
    exact submit_accepted (attemptSubmit_answered sends (broadcast_of_mentions refused mentions))
  · intro unmentioned taken returned
    rw [← sender, ← nonce] at returned ⊢
    exact submit_failed
      (attemptSubmit_answered sends (broadcast_of_unmentioned refused unmentioned returned))

end Tracker

namespace Client

variable {ν : Type} {network : Network ν} {raw : Bytes} {front rest : List Url} {provider : Url}
  {reasons : List String} {last : String} {state middle after : ν}

/-- The providers turn the transaction away, one after the other, for these reasons. -/
inductive Refusals (network : Network ν) (raw : Bytes) : List Url → ν → List String → ν → Prop where
  | nobody (state : ν) : Refusals network raw [] state [] state
  | next {provider : Url} {rest : List Url} {state middle after : ν} {reason : String}
      {reasons : List String}
      (refused : network.request provider (.sendRaw raw) state = (.refusal reason, middle))
      (later : Refusals network raw rest middle reasons after) :
      Refusals network raw (provider :: rest) state (reason :: reasons) after

/-- What a broadcast comes to does not depend on the providers that have been passed over. -/
theorem firstTaker_append (refusals : Refusals network raw front state reasons after)
    (unmentioned : ∀ reason ∈ reasons, ¬ Rejection.Mentions reason) (last : String) :
    firstTaker network raw (front ++ rest) last state =
      firstTaker network raw rest (reasons.getLastD last) after := by
  induction refusals generalizing last with
  | nobody => rfl
  | @next provider others state middle after reason reasons refused later ih =>
      have unknown : Rejection.isAlreadyKnown reason = false :=
        Rejection.isAlreadyKnown_of_not (unmentioned reason (by simp))
      simp only [List.cons_append, firstTaker, refused, unknown]
      rw [List.getLastD_cons]
      exact ih (fun text listed => unmentioned text (by simp [listed])) reason

/-- How a client reads the reason of a provider, those before which have refused. -/
def SendReads (reason : String) : Prop :=
  ∀ (ν : Type) (network : Network ν) (raw : Bytes) (client : Client ν) front provider rest reasons
      middle after,
    client.providers = front ++ provider :: rest →
    Refusals network raw front client.network reasons middle →
    (∀ earlier ∈ reasons, ¬ Rejection.Mentions earlier) →
    network.request provider (.sendRaw raw) middle = (.refusal reason, after) →
    (Rejection.Mentions reason →
      client.send network raw = (.ok (Keccak.hash raw), { client with network := after })) ∧
    (¬ Rejection.Mentions reason → rest = [] →
      client.send network raw = (.error (.failure (.broadcast (refusalOpening ++ reason))),
        countFailure { client with network := after } (label .sendRaw))) ∧
    (¬ Rejection.Mentions reason → rest ≠ [] →
      client.send network raw =
        (let (replied, left) := send network raw { client with network := after, providers := rest }
        (replied, { left with providers := client.providers })))

theorem send_reads (reason : String) : SendReads reason := by
  intro ν network raw client front provider rest reasons middle after listed refusals unmentioned
    refused
  have met : firstTaker network raw client.providers noProviderText client.network =
      firstTaker network raw (provider :: rest) (reasons.getLastD noProviderText) middle := by
    rw [listed]
    exact firstTaker_append refusals unmentioned noProviderText
  refine ⟨fun mentions => ?_, fun unsaid alone => ?_, fun unsaid others => ?_⟩
  · have known : Rejection.isAlreadyKnown reason = true := Rejection.isAlreadyKnown_iff.mpr mentions
    simp only [send, met, firstTaker, refused, known, if_true]
  · have unknown := Rejection.isAlreadyKnown_of_not unsaid
    subst alone
    have failed : firstTaker network raw [provider] (reasons.getLastD noProviderText) middle =
        (.refused reason, after) := by simp [firstTaker, refused, unknown]
    simp only [send, met, failed]
    rfl
  · have unknown := Rejection.isAlreadyKnown_of_not unsaid
    have passed : firstTaker network raw (provider :: rest) (reasons.getLastD noProviderText) middle =
        firstTaker network raw rest noProviderText after := by
      cases rest with
      | nil => exact absurd rfl others
      | cons next later => simp [firstTaker, refused, unknown]
    simp only [send, met, passed]
    cases firstTaker network raw rest noProviderText after with
    | mk outcome final => cases outcome <;> rfl

end Client

theorem rejections_are_read_by_phrase (reason : String) :
    (Rejection.isAlreadyKnown reason = true ↔ Rejection.Mentions reason) ∧
      Tracker.SubmitReads reason ∧ Client.SendReads reason :=
  ⟨Rejection.isAlreadyKnown_iff, Tracker.submit_reads reason, Client.send_reads reason⟩

/-- Wherever a phrase stands in the text, it follows directly on a letter. -/
def Rejection.OnlyTails (text : String) : Prop :=
  ∀ phrase ∈ alreadyKnownPhrases, ∀ place < (Search.lower text).length,
    phrase.toList <+: (Search.lower text).drop place →
      ((Search.lower text).take place).getLast?.any Char.isAlpha = true

/-- A chain that takes no transaction, and an account that has drawn its nonce 7. -/
def Chain.declining : World Chain where
  ledger := { Chain.fresh with rejection := some "unknown transaction type" }
  book := NonceBook.empty.set default 8
  metrics := .empty

/-- A refusal that speaks of an unknown type passes for acceptance: nothing was taken, and the nonce
is spent. -/
theorem unknown_type_passes_for_known :
    let ended := Program.runAll Chain.ledger
      (Tracker.broadcast ⟨0, none, none⟩ ⟨default, [0x02, 0xc0, 0x01], default, 7, 0⟩).run 0
      Chain.declining
    Rejection.OnlyTails "unknown transaction type" ∧
      Rejection.isAlreadyKnown "unknown transaction type" = true ∧
      ended.1 = .ok () ∧ ended.2.2.ledger.broadcasts = [] ∧ ended.2.2.book.peek default = some 8 := by
  have tails : Rejection.OnlyTails "unknown transaction type" := by
    unfold Rejection.OnlyTails
    decide +kernel
  refine ⟨tails, ?_⟩
  decide +kernel

end Notary
