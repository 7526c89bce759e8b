import Mathlib
import Notary.Proofs.Delivery.Sending
import Notary.Proofs.Delivery.Wording

namespace Notary

/-!
A client and a tracker read the same reasons. A reason that comes to the tracker has been put into two
sentences on its way, and neither of them makes it speak of a transaction that is known.
-/

/-- What a program takes, it does wherever each step has the reply that it has there. -/
theorem Program.Takes.answered {α : Type} {program : Program α} {exchanges : List Exchange} {result : α}
    {reply : (step : Step) → step.Reply} (takes : program.Takes exchanges (.done result))
    (told : ∀ exchange ∈ exchanges, reply exchange.step = exchange.reply) :
    program.answered reply = (exchanges.map (·.step), result) := by
  induction exchanges generalizing program with
  | nil =>
      cases takes
      rfl
  | cons exchange rest ih =>
      cases takes with
      | step later =>
          rw [List.forall_mem_cons] at told
          obtain ⟨here, rest⟩ := told
          simp only [Program.answered, here, ih later rest, List.map_cons]

namespace Rejection

variable {text other : String}

theorem isAlreadyKnown_rpc (reason : String) :
    isAlreadyKnown (Error.rpc reason).message = isAlreadyKnown reason :=
  isAlreadyKnown_append (by decide +kernel) reason

/-- The texts differ in the case of ASCII letters at most. -/
def Recased (text other : String) : Prop :=
  List.Forall₂ (fun c d => d = c ∨ d = c.toUpper ∨ d = c.toLower) text.toList other.toList

theorem lower_recased (recased : Recased text other) : Search.lower other = Search.lower text := by
  unfold Recased at recased
  unfold Search.lower
  generalize text.toList = chars, other.toList = others at recased ⊢
  induction recased with
  | nil => rfl
  | @cons c d _ _ same _ ih =>
      have lowered : d.toLower = c.toLower := by
        obtain rfl | rfl | rfl := same
        · rfl
        · exact Char.toLower_toUpper_eq_toLower c
        · exact Char.toLower_toLower_eq_toLower c
      rw [List.map_cons, List.map_cons, lowered, ih]

theorem isAlreadyKnown_recased (recased : Recased text other) :
    isAlreadyKnown other = isAlreadyKnown text := by
  unfold isAlreadyKnown Search.mentions
  rw [lower_recased recased]

end Rejection

namespace Client

variable {ν : Type} {network : Network ν} {raw : Bytes} {client left : Client ν} {fault : Fault}

/-- The last reason of a client that every provider refused does not say that the transaction is known. -/
theorem firstTaker_refused {providers : List Url} {last reason : String} {state after : ν}
    (unknown : Rejection.isAlreadyKnown last = false)
    (refused : firstTaker network raw providers last state = (.refused reason, after)) :
    Rejection.isAlreadyKnown reason = false := by
  induction providers generalizing last state with
  | nil =>
      cases refused
      exact unknown
  | cons provider rest ih =>
      simp only [firstTaker] at refused
      split at refused
      · cases refused
      · next told middle _ =>
          cases known : Rejection.isAlreadyKnown told with
          | true =>
              rw [known] at refused
              cases refused
          | false =>
              rw [known] at refused
              exact ih known refused
      · cases refused

theorem send_refused (failed : client.send network raw = (.error fault, left)) :
    ∃ reason, fault = .failure (.broadcast (refusalOpening ++ reason)) ∧
      Rejection.isAlreadyKnown reason = false := by
  have unsaid : Rejection.isAlreadyKnown noProviderText = false := by decide +kernel
  cases told : firstTaker network raw client.providers noProviderText client.network with
  | mk outcome state =>
      simp only [send, told] at failed
      cases outcome with
      | taken | known | uncertain => cases failed
      | refused reason =>
          cases failed
          exact ⟨reason, rfl, firstTaker_refused unsaid told⟩

end Client

/-- A submission whose broadcast fails in this way hands its nonce back, and fails in the same way. -/
def Tracker.HandsOn (fault : Fault) : Prop :=
  ∀ tracker signer payload options reply earlier height terms signed,
    Sends tracker signer payload options reply earlier height terms signed →
    sendReply signed.raw reply = .error fault →
    ∀ taken, releaseReply signer.address terms.nonce reply = .ok taken →
    (tracker.submit signer payload options).answered reply =
      (.ask .blockNumber :: (earlier ++
          .ask (.sendRaw signed.raw) :: returns options signer.address terms.nonce) ++
          [.note (.submissions "failed")],
        .error fault)

/-- Whether a reason says that the transaction is known does not depend on the case of its letters, nor
on the sentence that it is put into; and no tracker reads so from the failure of a client. -/
theorem client_and_tracker_agree :
    (∀ message,
      Rejection.isAlreadyKnown (Error.broadcast message).message = Rejection.isAlreadyKnown message ∧
      Rejection.isAlreadyKnown (Error.rpc message).message = Rejection.isAlreadyKnown message ∧
      ∀ other, Rejection.Recased message other →
        Rejection.isAlreadyKnown other = Rejection.isAlreadyKnown message) ∧
    ∀ (ν : Type) (network : Network ν) (raw : Bytes) (client : Client ν) (fault : Fault)
        (left : Client ν), client.send network raw = (.error fault, left) →
      ∃ reason, fault = .failure (.broadcast reason) ∧
        Rejection.isAlreadyKnown (Error.broadcast reason).message = false ∧
        Tracker.HandsOn fault := by
  refine ⟨fun message => ⟨Rejection.isAlreadyKnown_broadcast message,
    Rejection.isAlreadyKnown_rpc message, fun other => Rejection.isAlreadyKnown_recased⟩, ?_⟩
  intro ν network raw client fault left failed
  obtain ⟨reason, rfl, unknown⟩ := Client.send_refused failed
  have unread := Client.isAlreadyKnown_refused unknown
  refine ⟨_, rfl, unread, ?_⟩
  intro tracker signer payload options reply earlier height terms signed sends refused taken returned
  rw [Rejection.isAlreadyKnown_broadcast] at unread
  have unmentioned : ¬ Rejection.Mentions (Client.refusalOpening ++ reason) := by
    rw [← Rejection.isAlreadyKnown_iff, unread]
    exact Bool.false_ne_true
  exact (Tracker.submit_reads _ tracker signer payload options reply earlier height terms signed
    sends refused).2 unmentioned taken returned

/-- The replies of a ledger that nothing was sent to, except where a transaction is sent. -/
def replying (sent : Except Fault Hash) : (step : Step) → step.Reply
  | .ask .chainId => Except.ok Chain.ownChainId
  | .ask .blockNumber => Except.ok (1 : Nat)
  | .ask .finalizedBlockNumber | .ask (.blockHash _) | .ask (.inclusion _) => Except.ok none
  | .ask (.pendingNonce _) => Except.ok (0 : Nat)
  | .ask .gasPrice => Except.ok (1000000000 : Nat)
  | .ask (.sendRaw _) => sent
  | .reserve _ floor => Except.ok floor
  | .release _ _ => Except.ok true
  | .pause _ => ()
  | .draw _ => ⟨0, Nat.succ_pos _⟩
  | .note _ => ()

open Tracker in
/-- A call that was lost on its way reaches the tracker as a failure, and the submission hands its nonce
back. -/
theorem lost_call_is_handed_on :
    ∃ signed fault left,
      (letter default 0).sign = .ok signed ∧
      Client.drawn.ledger.send Client.breaking.network signed.raw = (.error fault, left) ∧
      fault = .failure (.broadcast (Client.refusalOpening ++ "error sending request")) ∧
      HandsOn fault ∧
      (usual.submit default [0] ⟨0, none, none⟩).answered (replying (.error fault)) =
        ([.ask .blockNumber, .ask .gasPrice, .ask (.pendingNonce (default : Signer).address),
            .reserve (default : Signer).address 0, .ask (.sendRaw signed.raw),
            .release (default : Signer).address 0, .note (.submissions "failed")],
          .error fault) := by
  -- The address is not to be computed from here on.
  have signed := first_letter_signed
  generalize (default : Signer) = signer at signed ⊢
  obtain ⟨signed, done⟩ := signed
  have failed : Client.drawn.ledger.send Client.breaking.network signed.raw = (.error _, _) := rfl
  obtain ⟨-, -, -, handsOn⟩ := client_and_tracker_agree.2 _ _ _ _ _ _ failed
  have prepared := prepare_takes (errand_comesTo signer 0) 0
  refine ⟨signed, _, _, done, failed, rfl, handsOn, ?_⟩
  refine handsOn usual signer [0] ⟨0, none, none⟩ (replying _) _ 1 (letter signer 0).terms signed
    ⟨rfl, Program.Takes.answered prepared ?_, done⟩ rfl true rfl
  intro exchange listed
  simp only [List.mem_cons, List.not_mem_nil, or_false] at listed
  obtain rfl | rfl | rfl := listed <;> rfl

end Notary
