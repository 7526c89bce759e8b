import Notary.Proofs.Delivery.Sending

namespace Notary

/-!
Submissions that the ledger in memory turns away, as threads of a crew: each draws a nonce in four turns,
and in three more it sends its transaction, gives the nonce back and counts the failure.
-/

namespace Tracker

def pair (signer : Signer) : List Order :=
  [errand signer 0, errand signer 1]

def turningAway : Error :=
  .broadcast "insufficient funds"

theorem turningAway_unknown : Rejection.isAlreadyKnown turningAway.message = false := by
  decide +kernel

/-- The program of a submission that holds a nonce and has signed what will be turned away. -/
def Doomed (account : Address) (nonce : Nat) (raw : Bytes) (taken : Bool)
    (held : Program (Except Fault Submission)) : Prop :=
  held.Takes (returning raw turningAway account nonce taken) (.done (.error (.failure turningAway)))

variable {account : Address} {nonce : Nat} {raw : Bytes} {taken : Bool}

/-- A chain that turns away whatever it is sent. -/
def rejecting (height : Nat) : Chain :=
  { Chain.fresh with head := height, rejection := some "insufficient funds" }

def refusing : World Chain :=
  ⟨rejecting 0, .empty, .empty⟩

theorem returning_served {height : Nat} {book left : NonceBook} {metrics : Metrics}
    (given : book.release account nonce = (.ok taken, left)) :
    World.Serves Chain.ledger ⟨rejecting height, book, metrics⟩
      (returning raw turningAway account nonce taken)
      ⟨rejecting height, left, metrics.increment (.submissions "failed")⟩ :=
  .step rfl (.step (World.serve_release given) (.step rfl (.nothing _)))

/-- Where submissions to such a chain stand, whatever has been counted. -/
structure Stands (height : Nat) (book : NonceBook) (threads : List (Program (Except Fault Submission)))
    (crew : Crew Chain (Except Fault Submission)) : Prop where
  ledger : crew.world.ledger = rejecting height
  book : crew.world.book = book
  threads : crew.threads = threads

variable {book left : NonceBook} {height : Nat} {crew : Crew Chain (Except Fault Submission)}
  {threads : List (Program (Except Fault Submission))} {held : Program (Except Fault Submission)}

theorem Stands.draw (stands : Stands height book threads crew) (thread : Nat) (signer : Signer)
    (number : UInt8) {signed : SignedTransaction} (done : (letter signer number).sign = .ok signed)
    (taken : Bool)
    (found : threads[thread]? = some (usual.submit signer [number] ⟨0, none, none⟩).run)
    (level : book.next signer.address = number.toNat) :
    ∃ after held, Doomed signer.address number.toNat signed.raw taken held ∧
      Stands (height + 1) (book.set signer.address (number.toNat + 1)) (threads.set thread held) after ∧
      ∀ schedule, crew.play Chain.ledger (thread :: thread :: thread :: thread :: schedule) =
        ((drawing signer.address (height + 1) 1000000000 0 number.toNat).map (Exchange.turn thread) ++
            (after.play Chain.ledger schedule).1,
          (after.play Chain.ledger schedule).2) := by
  obtain ⟨⟨ledger, book, metrics⟩, threads⟩ := crew
  obtain ⟨rfl, rfl, rfl⟩ := stands
  obtain ⟨held, takes, doomed⟩ := (submit_takes_refused (errand_comesTo signer number) done (height + 1) 0
    turningAway_unknown taken).split
  have drawn := reserve_letter book signer.address number level
  have serves : World.Serves Chain.ledger ⟨rejecting height, book, metrics⟩
      (drawing signer.address (height + 1) 1000000000 0 number.toNat)
      ⟨rejecting (height + 1), book.set signer.address (number.toNat + 1), metrics⟩ :=
    drawing_served rfl drawn
  exact ⟨_, held, doomed, ⟨rfl, rfl, rfl⟩, Crew.play_takes takes serves found⟩

theorem Stands.giveBack (stands : Stands height book threads crew) (thread : Nat)
    (doomed : Doomed account nonce raw taken held) (found : threads[thread]? = some held)
    (given : book.release account nonce = (.ok taken, left)) :
    ∃ after, Stands height left (threads.set thread (.done (.error (.failure turningAway)))) after ∧
      ∀ schedule, crew.play Chain.ledger (thread :: thread :: thread :: schedule) =
        ((returning raw turningAway account nonce taken).map (Exchange.turn thread) ++
            (after.play Chain.ledger schedule).1,
          (after.play Chain.ledger schedule).2) := by
  obtain ⟨⟨ledger, book, metrics⟩, threads⟩ := crew
  obtain ⟨rfl, rfl, rfl⟩ := stands
  exact ⟨_, ⟨rfl, rfl, rfl⟩, Crew.play_takes doomed (returning_served given) found⟩

end Tracker

end Notary
