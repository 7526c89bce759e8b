import Mathlib.Tactic.Ring
import Notary.Bytes

namespace Notary

/-!
Numbers read back from the bytes they were written in. A number in its shortest form has no zero in
front, and needs no more bytes than a word that it fits into.
-/

namespace Bytes

variable {count value : Nat}

theorem toNatBE_cons (byte : UInt8) (rest : Bytes) :
    toNatBE (byte :: rest) = byte.toNat * 256 ^ rest.length + toNatBE rest := by
  -- The fold starts from any number, which the later bytes move up by their places.
  have general : ∀ (bytes : Bytes) (start : Nat),
      bytes.foldl (fun value byte => value * 256 + byte.toNat) start =
        start * 256 ^ bytes.length + toNatBE bytes := by
    intro bytes
    induction bytes with
    | nil => intro start; simp [toNatBE]
    | cons byte rest ih =>
        intro start
        rw [toNatBE, List.foldl_cons, List.foldl_cons, ih, ih, List.length_cons]
        ring
  rw [toNatBE, List.foldl_cons, general]
  ring

theorem toNatBE_append (front back : Bytes) :
    toNatBE (front ++ back) = toNatBE front * 256 ^ back.length + toNatBE back := by
  induction front with
  | nil => simp [toNatBE]
  | cons byte rest ih =>
      rw [List.cons_append, toNatBE_cons, toNatBE_cons, ih, List.length_append]
      ring

theorem toNatBE_ofNatBE (count value : Nat) :
    toNatBE (ofNatBE count value) = value % 256 ^ count := by
  induction count with
  | zero => simp [ofNatBE, toNatBE, Nat.mod_one]
  | succ count ih =>
      have size : (2 : Nat) ^ (8 * count) = 256 ^ count := by rw [Nat.pow_mul]
      have digit : (UInt8.ofNat (value >>> (8 * count))).toNat = value / 256 ^ count % 256 := by
        rw [UInt8.toNat_ofNat', Nat.shiftRight_eq_div_pow, size]
      rw [ofNatBE, toNatBE_cons, digit, ih, length_ofNatBE, Nat.pow_succ, Nat.mod_mul]
      ring

theorem toNatBE_ofNatBE_of_lt (fits : value < 256 ^ count) :
    toNatBE (ofNatBE count value) = value := by
  rw [toNatBE_ofNatBE, Nat.mod_eq_of_lt fits]

theorem minimalBE_zero : minimalBE 0 = [] := by
  rw [minimalBE, if_pos rfl]

theorem minimalBE_of_pos (positive : 0 < value) :
    minimalBE value = minimalBE (value / 256) ++ [UInt8.ofNat value] := by
  rw [minimalBE, if_neg (Nat.pos_iff_ne_zero.mp positive)]

theorem toNatBE_minimalBE (value : Nat) : toNatBE (minimalBE value) = value := by
  induction value using Nat.strongRecOn with
  | ind value ih =>
      by_cases zero : value = 0
      · subst zero
        rw [minimalBE_zero]
        rfl
      · have positive := Nat.pos_of_ne_zero zero
        have last : toNatBE [UInt8.ofNat value] = value % 256 := by
          rw [toNatBE_cons, UInt8.toNat_ofNat']
          simp [toNatBE]
        rw [minimalBE_of_pos positive, toNatBE_append, last,
          ih (value / 256) (Nat.div_lt_self positive (by decide))]
        simp only [List.length_singleton, Nat.pow_one]
        omega

theorem length_minimalBE_le (fits : value < 256 ^ count) : (minimalBE value).length ≤ count := by
  induction count generalizing value with
  | zero =>
      obtain rfl : value = 0 := by simpa using fits
      rw [minimalBE_zero]
      exact Nat.le_refl 0
  | succ count ih =>
      by_cases zero : value = 0
      · subst zero
        rw [minimalBE_zero]
        exact Nat.zero_le _
      · have smaller : value / 256 < 256 ^ count := by
          rw [Nat.div_lt_iff_lt_mul (by decide)]
          exact fits
        rw [minimalBE_of_pos (Nat.pos_of_ne_zero zero), List.length_append, List.length_singleton]
        exact Nat.succ_le_succ (ih smaller)

theorem length_minimalBE_pos (positive : 0 < value) : 0 < (minimalBE value).length := by
  rw [minimalBE_of_pos positive]
  simp

theorem head?_minimalBE (value : Nat) : (minimalBE value).head? ≠ some 0 := by
  induction value using Nat.strongRecOn with
  | ind value ih =>
      by_cases zero : value = 0
      · subst zero
        simp [minimalBE_zero]
      · have positive := Nat.pos_of_ne_zero zero
        rw [minimalBE_of_pos positive]
        by_cases single : value / 256 = 0
        · -- The number is its only byte, which is not zero.
          rw [single, minimalBE_zero]
          have small : value < 256 := by omega
          intro same
          have byte : UInt8.ofNat value = 0 := by simpa using same
          have digit := congrArg UInt8.toNat byte
          rw [UInt8.toNat_ofNat', Nat.mod_eq_of_lt small] at digit
          exact zero digit
        · have front := ih (value / 256) (Nat.div_lt_self positive (by decide))
          have longer := length_minimalBE_pos (Nat.pos_of_ne_zero single)
          obtain ⟨first, rest, shape⟩ := List.exists_cons_of_length_pos longer
          rw [shape] at front ⊢
          exact front

end Bytes

theorem Address.ofBytes_toBytes (address : Address) :
    Address.ofBytes address.toBytes = address := by
  have fits : address.word.toNat < 256 ^ 20 := address.word.isLt
  rw [Address.ofBytes, Address.toBytes, Bytes.toNatBE_ofNatBE_of_lt fits]
  simp

end Notary
