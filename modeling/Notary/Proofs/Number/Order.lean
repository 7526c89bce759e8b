import Mathlib.Algebra.Order.Floor.Semifield
import Mathlib.Data.Rat.Floor
import Mathlib.Order.Monotone.Basic
import Notary.Proofs.Number.Rounding

namespace Notary.Binary64

/-!
Floating-point values in the order of their bits. The bits of a value that is not negative count up
with what it is worth, so its integer part grows with them, and so does its product with a positive
factor.
-/

variable {magnitude other : Nat} {number factor : Binary64}

/-- What the finite value with these magnitude bits is worth. -/
def worth (magnitude : Nat) : ℚ :=
  if magnitude / fractionSize = 0 then magnitude * 2 ^ minExponent
  else ((fractionSize + magnitude % fractionSize : Nat) : ℚ) *
    2 ^ (minExponent + (magnitude / fractionSize : Nat) - 1)

theorem worth_subnormal {fraction : Nat} (small : fraction < fractionSize) :
    worth fraction = fraction * 2 ^ minExponent := by
  rw [worth, if_pos (Nat.div_eq_of_lt small)]

theorem worth_normal {fraction : Nat} (exponent : Nat) (small : fraction < fractionSize) :
    worth ((exponent + 1) * fractionSize + fraction) =
      (fractionSize + fraction : Nat) * 2 ^ (minExponent + exponent) := by
  have quotient : ((exponent + 1) * fractionSize + fraction) / fractionSize = exponent + 1 := by
    rw [Nat.mul_comm, Nat.mul_add_div (by decide), Nat.div_eq_of_lt small, Nat.add_zero]
  have remainder : ((exponent + 1) * fractionSize + fraction) % fractionSize = fraction := by
    rw [Nat.mul_comm, Nat.mul_add_mod, Nat.mod_eq_of_lt small]
  rw [worth, if_neg (by omega), quotient, remainder]
  congr 2
  push_cast
  ring

theorem worth_mono : Monotone worth := by
  refine monotone_nat_of_le_succ fun magnitude => ?_
  have parts := Nat.div_add_mod' magnitude fractionSize
  have small : magnitude % fractionSize < fractionSize := Nat.mod_lt _ (by decide)
  generalize magnitude / fractionSize = exponent at parts
  generalize magnitude % fractionSize = fraction at parts small
  subst parts
  obtain inside | last : fraction + 1 < fractionSize ∨ fraction + 1 = fractionSize := by omega
  · cases exponent with
    | zero =>
        rw [Nat.zero_mul, Nat.zero_add, worth_subnormal small, worth_subnormal inside]
        gcongr
        omega
    | succ exponent =>
        rw [Nat.add_assoc, worth_normal exponent small, worth_normal exponent inside]
        gcongr
        omega
  · -- The last fraction of an exponent is followed by the first one of the next exponent.
    rw [Nat.add_assoc, last]
    cases exponent with
    | zero =>
        have first := worth_normal 0 (show 0 < fractionSize by decide)
        rw [Nat.add_zero, Nat.zero_add, Nat.one_mul, Nat.add_zero, Nat.cast_zero, add_zero] at first
        rw [Nat.zero_mul, Nat.zero_add, Nat.zero_add, worth_subnormal small, first]
        gcongr
    | succ exponent =>
        have first := worth_normal (exponent + 1) (show 0 < fractionSize by decide)
        rw [Nat.add_zero, Nat.add_one_mul (exponent + 1)] at first
        rw [worth_normal exponent small, first]
        calc ((fractionSize + fraction : Nat) : ℚ) * 2 ^ (minExponent + exponent)
            ≤ ((fractionSize + fractionSize : Nat) : ℚ) * 2 ^ (minExponent + exponent) := by gcongr
          _ = ((fractionSize + 0 : Nat) : ℚ) * 2 ^ (minExponent + (exponent + 1 : Nat)) := by
            push_cast
            rw [← add_assoc, zpow_add₀ (by norm_num : (2 : ℚ) ≠ 0) (minExponent + exponent), zpow_one]
            ring

theorem worth_pos (some : 0 < magnitude) : 0 < worth magnitude := by
  calc (0 : ℚ) < worth 1 := by
        rw [worth_subnormal (by decide)]
        positivity
    _ ≤ worth magnitude := worth_mono some

theorem value_ofMagnitude (finite : magnitude < infiniteMagnitude) :
    ∃ mantissa exponent, (ofMagnitude false magnitude).value = .finite false mantissa exponent ∧
      (mantissa : ℚ) * 2 ^ exponent = worth magnitude := by
  have fits : magnitude < signBit := finite.trans (by decide)
  have bits : (ofMagnitude false magnitude).bits.toNat = magnitude := by
    have small : magnitude < 2 ^ 64 := fits.trans (by decide)
    simpa [ofMagnitude] using small
  have notLast : magnitude / fractionSize ≠ 2047 := by
    have := Nat.div_lt_of_lt_mul (show magnitude < fractionSize * 2047 from finite)
    omega
  simp only [value, bits, Nat.mod_eq_of_lt fits, decide_eq_false (Nat.not_le.mpr fits), worth,
    if_neg notLast]
  split
  · next subnormal =>
      refine ⟨_, _, rfl, ?_⟩
      rw [Nat.mod_eq_of_lt ((Nat.div_eq_zero_iff_lt (by decide)).mp subnormal)]
  · exact ⟨_, _, rfl, rfl⟩

theorem value_ofMagnitude_infinite : (ofMagnitude false infiniteMagnitude).value = .infinite false := by
  decide

theorem toWord_le (bits : Nat) (number : Binary64) : number.toWord bits ≤ (1 <<< bits) - 1 := by
  simp only [toWord]
  split
  · exact Nat.zero_le _
  · split
    · exact Nat.zero_le _
    · exact Nat.le_refl _
  · split
    · exact Nat.zero_le _
    · split <;> exact Nat.min_le_right _ _

theorem toWord_infinite (bits : Nat) (infinite : number.value = .infinite false) :
    number.toWord bits = (1 <<< bits) - 1 := by
  simp [toWord, infinite]

theorem toWord_finite (bits : Nat) {mantissa : Nat} {exponent : Int}
    (finite : number.value = .finite false mantissa exponent) :
    number.toWord bits = min ⌊(mantissa : ℚ) * 2 ^ exponent⌋₊ ((1 <<< bits) - 1) := by
  simp only [toWord, finite, Bool.false_eq_true, if_false]
  split
  · next nonnegative =>
      obtain ⟨shift, rfl⟩ := Int.eq_ofNat_of_zero_le nonnegative
      rw [Int.toNat_natCast, zpow_natCast, Nat.shiftLeft_eq]
      congr 1
      exact_mod_cast (Nat.floor_natCast (R := ℚ) (mantissa * 2 ^ shift)).symm
  · next negative =>
      obtain ⟨shift, same⟩ := Int.eq_ofNat_of_zero_le (show 0 ≤ -exponent by omega)
      obtain rfl : exponent = -(shift : Int) := by omega
      rw [neg_neg, Int.toNat_natCast, zpow_neg, zpow_natCast, Nat.shiftRight_eq_div_pow, ← div_eq_mul_inv]
      congr 1
      exact_mod_cast (Nat.floor_div_eq_div (K := ℚ) mantissa (2 ^ shift)).symm

theorem toWord_mono (bits : Nat) (order : magnitude ≤ other) (bounded : other ≤ infiniteMagnitude) :
    (ofMagnitude false magnitude).toWord bits ≤ (ofMagnitude false other).toWord bits := by
  obtain finite | rfl := bounded.lt_or_eq
  · obtain ⟨mantissa, exponent, value, same⟩ := value_ofMagnitude (order.trans_lt finite)
    obtain ⟨another, higher, valueToo, sameToo⟩ := value_ofMagnitude finite
    rw [toWord_finite bits value, toWord_finite bits valueToo, same, sameToo]
    exact min_le_min_right _ (Nat.floor_mono (worth_mono order))
  · rw [toWord_infinite bits value_ofMagnitude_infinite]
    exact toWord_le bits _

theorem nearestMagnitude_le (numerator denominator : Nat) :
    nearestMagnitude numerator denominator ≤ infiniteMagnitude := by
  unfold nearestMagnitude
  split
  · exact Nat.zero_le _
  · exact Nat.min_le_right _ _

/-- The product of finite values is rounded from the product of what they are worth. -/
theorem mul_finite {mantissa scale : Nat} {exponent order : Int}
    (left : number.value = .finite false mantissa exponent)
    (right : factor.value = .finite false scale order) :
    ∃ numerator denominator, 0 < denominator ∧
      number.mul factor = ofMagnitude false (nearestMagnitude numerator denominator) ∧
      ratio (numerator, denominator) = (mantissa : ℚ) * 2 ^ exponent * (scale * 2 ^ order) := by
  simp only [mul, left, right, bne_self_eq_false]
  have product : (mantissa : ℚ) * 2 ^ exponent * (scale * 2 ^ order) =
      mantissa * scale * 2 ^ (exponent + order) := by
    rw [zpow_add₀ (by norm_num)]
    ring
  rw [product]
  split
  · next nonnegative =>
      obtain ⟨shift, same⟩ := Int.eq_ofNat_of_zero_le nonnegative
      refine ⟨_, _, Nat.one_pos, rfl, ?_⟩
      rw [same, Int.toNat_natCast, ratio, Nat.shiftLeft_eq, zpow_natCast]
      push_cast
      ring
  · next negative =>
      obtain ⟨shift, same⟩ := Int.eq_ofNat_of_zero_le (show 0 ≤ -(exponent + order) by omega)
      have total : exponent + order = -(shift : Int) := by omega
      refine ⟨_, _, ?_, rfl, ?_⟩
      · rw [Nat.shiftLeft_eq]
        positivity
      · rw [total, neg_neg, Int.toNat_natCast, ratio, Nat.shiftLeft_eq, zpow_neg, zpow_natCast]
        push_cast
        ring

theorem mul_infinite_right (some : 0 < magnitude) (bounded : magnitude ≤ infiniteMagnitude)
    (infinite : factor.value = .infinite false) :
    (ofMagnitude false magnitude).mul factor = ofMagnitude false infiniteMagnitude := by
  obtain finite | rfl := bounded.lt_or_eq
  · obtain ⟨mantissa, exponent, value, same⟩ := value_ofMagnitude finite
    have nonzero : mantissa ≠ 0 := by
      rintro rfl
      have := worth_pos some
      rw [← same, Nat.cast_zero, zero_mul] at this
      exact lt_irrefl _ this
    simp only [mul, value, infinite, if_neg nonzero]
    rfl
  · simp only [mul, value_ofMagnitude_infinite, infinite]
    rfl

/-- The product with a positive factor grows with the other factor. -/
theorem toWord_mul_mono (bits : Nat) (positive : factor.isPositive = true)
    (order : magnitude ≤ other) (bounded : other ≤ infiniteMagnitude) :
    ((ofMagnitude false magnitude).mul factor).toWord bits ≤
      ((ofMagnitude false other).mul factor).toWord bits := by
  cases kind : factor.value with
  | nan => simp [isPositive, kind] at positive
  | infinite negative =>
      obtain rfl : negative = false := by simpa [isPositive, kind] using positive
      obtain rfl | some := Nat.eq_zero_or_pos magnitude
      · -- Zero times infinity is no number, and no number comes to zero.
        have nothing : ((ofMagnitude false 0).mul factor).toWord bits = 0 := by
          have value : (ofMagnitude false 0).value = .finite false 0 minExponent := by decide
          have notNumber : nan.value = .nan := by decide
          simp [mul, value, kind, toWord, notNumber]
        rw [nothing]
        exact Nat.zero_le _
      · rw [mul_infinite_right some (order.trans bounded) kind,
          mul_infinite_right (some.trans_le order) bounded kind]
  | finite negative scale power =>
      obtain ⟨rfl, nonzero⟩ : negative = false ∧ scale ≠ 0 := by
        simpa [isPositive, kind] using positive
      obtain finite | rfl := bounded.lt_or_eq
      · obtain ⟨mantissa, exponent, value, same⟩ := value_ofMagnitude (order.trans_lt finite)
        obtain ⟨another, higher, valueToo, sameToo⟩ := value_ofMagnitude finite
        obtain ⟨numerator, denominator, size, product, worthOf⟩ := mul_finite value kind
        obtain ⟨numeratorToo, denominatorToo, sizeToo, productToo, worthToo⟩ :=
          mul_finite valueToo kind
        rw [product, productToo]
        refine toWord_mono bits (nearestMagnitude_mono size sizeToo ?_) (nearestMagnitude_le _ _)
        rw [worthOf, worthToo, same, sameToo]
        have grows := worth_mono order
        gcongr
      · have greatest : (ofMagnitude false infiniteMagnitude).mul factor =
            ofMagnitude false infiniteMagnitude := by
          simp only [mul, value_ofMagnitude_infinite, kind, if_neg nonzero]
          rfl
        rw [greatest, toWord_infinite bits value_ofMagnitude_infinite]
        exact toWord_le bits _

theorem toWord_ofNat_mul_mono (bits : Nat) (positive : factor.isPositive = true) {least most : Nat}
    (order : least ≤ most) :
    ((ofNat least).mul factor).toWord bits ≤ ((ofNat most).mul factor).toWord bits := by
  refine toWord_mul_mono bits positive (nearestMagnitude_mono Nat.one_pos Nat.one_pos ?_)
    (nearestMagnitude_le _ _)
  rw [ratio_le_ratio Nat.one_pos Nat.one_pos, Nat.mul_one, Nat.mul_one]
  exact order

end Notary.Binary64
