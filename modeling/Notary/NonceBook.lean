import Notary.Bytes
import Notary.Number.Checked

namespace Notary

/-!
The nonces of accounts. A nonce belongs to an account and not to a signer, so every signer of one
account draws from one counter. The counter is raised to what the chain knows and never lowered,
except to take back the nonce it gave out last.
-/

/-- The next nonce of each account that has asked for one. -/
structure NonceBook where
  entries : List (Address × Nat)
  deriving Repr, Inhabited

namespace NonceBook

def empty : NonceBook := ⟨[]⟩

/-- The nonce that would be given out next, whatever the chain knows. -/
def peek (book : NonceBook) (account : Address) : Option Nat :=
  book.entries.lookup account

def write (account : Address) (next : Nat) : List (Address × Nat) → List (Address × Nat)
  | [] => [(account, next)]
  | (other, value) :: rest =>
      if other = account then (account, next) :: rest
      else (other, value) :: write account next rest

def set (book : NonceBook) (account : Address) (next : Nat) : NonceBook :=
  ⟨write account next book.entries⟩

/-- Gives out the next nonce of an account, at least `floor`. A counter that cannot be raised past
the nonce stays at it. -/
def reserve (book : NonceBook) (account : Address) (floor : Nat) : Except Fault Nat × NonceBook :=
  let nonce := max ((book.peek account).getD 0) floor
  match Checked.add 64 nonce 1 with
  | .error fault => (.error fault, book.set account nonce)
  | .ok next => (.ok nonce, book.set account next)

/-- Takes a nonce back if it is the last one given out. -/
def release (book : NonceBook) (account : Address) (nonce : Nat) : Except Fault Bool × NonceBook :=
  match book.peek account with
  | none => (.ok false, book)
  | some next =>
      match Checked.add 64 nonce 1 with
      | .error fault => (.error fault, book)
      | .ok after => if next = after then (.ok true, book.set account nonce) else (.ok false, book)

theorem lookup_write_self (account : Address) (next : Nat) (entries : List (Address × Nat)) :
    (write account next entries).lookup account = some next := by
  induction entries with
  | nil => simp [write]
  | cons entry rest ih =>
      obtain ⟨other, value⟩ := entry
      by_cases same : other = account
      · simp [write, same]
      · have differs : (account == other) = false := by simpa using fun h => same h.symm
        simp [write, same, List.lookup_cons, differs, ih]

theorem lookup_write_of_ne {account other : Address} (differs : other ≠ account) (next : Nat)
    (entries : List (Address × Nat)) :
    (write account next entries).lookup other = entries.lookup other := by
  have unequal : (other == account) = false := by simpa using differs
  induction entries with
  | nil => simp [write, List.lookup_cons, unequal]
  | cons entry rest ih =>
      obtain ⟨key, value⟩ := entry
      by_cases same : key = account
      · simp [write, same, List.lookup_cons, unequal]
      · simp only [write, same, if_false, List.lookup_cons, ih]

@[simp] theorem peek_set_self (book : NonceBook) (account : Address) (next : Nat) :
    (book.set account next).peek account = some next :=
  lookup_write_self account next book.entries

theorem peek_set_of_ne {account other : Address} (differs : other ≠ account) (book : NonceBook)
    (next : Nat) : (book.set account next).peek other = book.peek other :=
  lookup_write_of_ne differs next book.entries

end NonceBook

end Notary
