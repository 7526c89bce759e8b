import Notary.Error

namespace Notary.Checked

/-!
Sums and products of unsigned words. A result that does not fit its word is a breakdown and not a
value.
-/

/-- The first number beyond an unsigned word of so many bits. -/
def limit (bits : Nat) : Nat := 1 <<< bits

def add (bits left right : Nat) : Except Fault Nat :=
  if left + right < limit bits then .ok (left + right)
  else .error (.breakdown (some "attempt to add with overflow"))

def mul (bits left right : Nat) : Except Fault Nat :=
  if left * right < limit bits then .ok (left * right)
  else .error (.breakdown (some "attempt to multiply with overflow"))

/-- The sum, or the greatest word if it does not fit. -/
def saturatingAdd (bits left right : Nat) : Nat :=
  min (left + right) (limit bits - 1)

def saturatingMul (bits left right : Nat) : Nat :=
  min (left * right) (limit bits - 1)

/-- A power of two, or the greatest word if it does not fit. -/
def saturatingPowTwo (bits exponent : Nat) : Nat :=
  if exponent < bits then 1 <<< exponent else limit bits - 1

theorem add_eq_ok {bits left right sum : Nat} (h : add bits left right = .ok sum) :
    sum = left + right ∧ left + right < limit bits := by
  unfold add at h
  split at h <;> simp_all

theorem add_eq_error {bits left right : Nat} {fault : Fault}
    (failed : add bits left right = .error fault) : ∃ message, fault = .breakdown message := by
  unfold add at failed
  split at failed
  · cases failed
  · exact ⟨_, (Except.error.inj failed).symm⟩

theorem mul_eq_error {bits left right : Nat} {fault : Fault}
    (failed : mul bits left right = .error fault) : ∃ message, fault = .breakdown message := by
  unfold mul at failed
  split at failed
  · cases failed
  · exact ⟨_, (Except.error.inj failed).symm⟩

theorem saturatingPowTwo_eq (bits exponent : Nat) :
    saturatingPowTwo bits exponent = min (1 <<< exponent) (limit bits - 1) := by
  unfold saturatingPowTwo limit
  simp only [Nat.one_shiftLeft]
  split
  · next below =>
      have fits := Nat.pow_lt_pow_right (a := 2) (by omega) below
      rw [Nat.min_eq_left (by omega)]
  · next above =>
      have reaches := Nat.pow_le_pow_right (n := 2) (by omega) (Nat.not_lt.mp above)
      have positive := Nat.two_pow_pos bits
      rw [Nat.min_eq_right (by omega)]

end Notary.Checked
