import Notary.NonceBook

namespace Notary.NonceBook

/-!
What drawing a nonce and giving it back do to the counters: drawing raises the counter of one account
past the nonce, and giving back lowers it to the nonce if it stands just above.
-/

/-- The counter of an account; one that has asked for no nonce starts at zero. -/
def next (book : NonceBook) (account : Address) : Nat :=
  (book.peek account).getD 0

variable {book after : NonceBook} {account other : Address} {floor nonce counter : Nat}
  {fault : Fault} {reply : Except Fault Bool}

@[simp] theorem next_set_self : (book.set account counter).next account = counter := by
  simp [next]

theorem next_set_of_ne (differs : other ≠ account) :
    (book.set account counter).next other = book.next other := by
  simp [next, peek_set_of_ne differs]

theorem reserve_ok (reserved : book.reserve account floor = (.ok nonce, after)) :
    nonce = max (book.next account) floor ∧ after = book.set account (nonce + 1) := by
  unfold reserve at reserved
  cases added : Checked.add 64 (max ((book.peek account).getD 0) floor) 1 with
  | error fault => simp [added] at reserved
  | ok successor =>
      simp only [added, Prod.mk.injEq, Except.ok.injEq] at reserved
      obtain ⟨rfl, rfl⟩ := reserved
      rw [(Checked.add_eq_ok added).1]
      exact ⟨rfl, rfl⟩

theorem reserve_error (refused : book.reserve account floor = (.error fault, after)) :
    after = book.set account (max (book.next account) floor) := by
  unfold reserve at refused
  cases added : Checked.add 64 (max ((book.peek account).getD 0) floor) 1 with
  | error fault =>
      simp only [added, Prod.mk.injEq] at refused
      exact refused.2.symm
  | ok successor => simp [added] at refused

theorem release_eq (released : book.release account nonce = (reply, after)) :
    after = book ∨ book.next account = nonce + 1 ∧ after = book.set account nonce := by
  unfold release at released
  cases found : book.peek account with
  | none =>
      simp only [found, Prod.mk.injEq] at released
      exact .inl released.2.symm
  | some counter =>
      cases added : Checked.add 64 nonce 1 with
      | error fault =>
          simp only [found, added, Prod.mk.injEq] at released
          exact .inl released.2.symm
      | ok successor =>
          simp only [found, added] at released
          split at released
          · next same =>
              cases released
              refine .inr ⟨?_, rfl⟩
              rw [next, found, Option.getD_some, same, (Checked.add_eq_ok added).1]
          · cases released
            exact .inl rfl

/-- What is answered depends on the counter and the floor alone. -/
theorem reserve_fst (book : NonceBook) (account : Address) (floor : Nat) :
    (book.reserve account floor).1 =
      (Checked.add 64 (max (book.next account) floor) 1).map
        fun _ => max (book.next account) floor := by
  unfold reserve next
  simp only
  cases Checked.add 64 (max ((book.peek account).getD 0) floor) 1 <;> rfl

theorem reserve_of_fits (fits : max (book.next account) floor + 1 < Checked.limit 64) :
    book.reserve account floor =
      (.ok (max (book.next account) floor), book.set account (max (book.next account) floor + 1)) := by
  have added : Checked.add 64 (max (book.next account) floor) 1 =
      .ok (max (book.next account) floor + 1) := if_pos fits
  unfold next at added ⊢
  simp only [reserve, added]

theorem reserve_fits (reserved : book.reserve account floor = (.ok nonce, after)) :
    nonce + 1 < Checked.limit 64 := by
  have answered := reserve_fst book account floor
  rw [reserved, ← (reserve_ok reserved).1] at answered
  cases added : Checked.add 64 nonce 1 with
  | error fault =>
      rw [added] at answered
      cases answered
  | ok successor => exact (Checked.add_eq_ok added).2

/-- The nonce that was given out last is taken back. -/
theorem release_top (top : book.next account = nonce + 1) (fits : nonce + 1 < Checked.limit 64) :
    book.release account nonce = (.ok true, book.set account nonce) := by
  have added : Checked.add 64 nonce 1 = .ok (nonce + 1) := if_pos fits
  unfold next at top
  cases found : book.peek account with
  | none => simp [found] at top
  | some counter =>
      rw [found, Option.getD_some] at top
      simp only [release, found, added, top, if_true]

theorem release_buried (buried : nonce + 1 < book.next account)
    (fits : nonce + 1 < Checked.limit 64) : book.release account nonce = (.ok false, book) := by
  have added : Checked.add 64 nonce 1 = .ok (nonce + 1) := if_pos fits
  unfold next at buried
  cases found : book.peek account with
  | none => simp only [release, found]
  | some counter =>
      rw [found, Option.getD_some] at buried
      simp only [release, found, added, if_neg (Nat.ne_of_gt buried)]

end Notary.NonceBook
