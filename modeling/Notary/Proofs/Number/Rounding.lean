import Mathlib.Algebra.Order.Field.Power
import Mathlib.Tactic.Linarith
import Mathlib.Tactic.Positivity
import Mathlib.Tactic.Ring
import Notary.Number.Binary64

namespace Notary.Binary64

/-!
Rounding respects order. The value nearest to a fraction depends on the fraction's worth alone and
grows with it.
-/

/-- What a fraction is worth. -/
def ratio (fraction : Nat × Nat) : ℚ :=
  fraction.1 / fraction.2

theorem ratio_scaled (numerator denominator : Nat) (exponent : Int) :
    ratio (scaled numerator denominator exponent) =
      (numerator : ℚ) / denominator / 2 ^ exponent := by
  unfold scaled ratio
  split
  · next nonnegative =>
      obtain ⟨shift, rfl⟩ := Int.eq_ofNat_of_zero_le nonnegative
      simp only [Int.toNat_natCast, Nat.shiftLeft_eq, Nat.cast_mul, Nat.cast_pow, Nat.cast_ofNat,
        zpow_natCast, div_div]
  · next negative =>
      obtain ⟨shift, same⟩ := Int.eq_ofNat_of_zero_le (show 0 ≤ -exponent by omega)
      obtain rfl : exponent = -(shift : Int) := by omega
      simp only [neg_neg, Int.toNat_natCast, Nat.shiftLeft_eq, Nat.cast_mul, Nat.cast_pow,
        Nat.cast_ofNat, zpow_neg, zpow_natCast, div_inv_eq_mul]
      ring

theorem scaled_pos {numerator denominator : Nat} (positive : 0 < denominator) (exponent : Int) :
    0 < (scaled numerator denominator exponent).2 := by
  unfold scaled
  split
  · simp only [Nat.shiftLeft_eq]
    positivity
  · exact positive

variable {numerator denominator other another : Nat}

theorem ratio_le_ratio (positive : 0 < denominator) (positiveToo : 0 < another) :
    ratio (numerator, denominator) ≤ ratio (other, another) ↔
      numerator * another ≤ other * denominator := by
  have left : (0 : ℚ) < denominator := by exact_mod_cast positive
  have right : (0 : ℚ) < another := by exact_mod_cast positiveToo
  rw [ratio, ratio, div_le_div_iff₀ left right]
  exact_mod_cast Iff.rfl

theorem quotient_mono (positive : 0 < denominator) (positiveToo : 0 < another)
    (crossed : numerator * another ≤ other * denominator) :
    numerator / denominator ≤ other / another := by
  rw [Nat.le_div_iff_mul_le positiveToo]
  refine Nat.le_of_mul_le_mul_right (c := denominator) ?_ positive
  calc numerator / denominator * another * denominator
      = numerator / denominator * denominator * another := by ring
    _ ≤ numerator * another := Nat.mul_le_mul_right _ (Nat.div_mul_le_self _ _)
    _ ≤ other * denominator := crossed

theorem remainder_mono (same : numerator / denominator = other / another)
    (crossed : numerator * another ≤ other * denominator) :
    numerator % denominator * another ≤ other % another * denominator := by
  have first := Nat.div_add_mod numerator denominator
  have second := Nat.div_add_mod other another
  rw [← first, ← second, same] at crossed
  have split : denominator * (other / another) * another = another * (other / another) * denominator := by
    ring
  rw [Nat.add_mul, Nat.add_mul, split] at crossed
  exact Nat.le_of_add_le_add_left crossed

theorem roundFraction_mono (positive : 0 < denominator) (positiveToo : 0 < another)
    (least : ratio (numerator, denominator) ≤ ratio (other, another)) :
    roundFraction numerator denominator ≤ roundFraction other another := by
  rw [ratio_le_ratio positive positiveToo] at least
  obtain below | same := (quotient_mono positive positiveToo least).lt_or_eq
  · calc roundFraction numerator denominator ≤ numerator / denominator + 1 := by
          simp only [roundFraction]
          split <;> omega
      _ ≤ other / another := below
      _ ≤ roundFraction other another := by
          simp only [roundFraction]
          split <;> omega
  · -- The quotients agree, so what rounds the first fraction up rounds the second one up as well.
    have remainders := remainder_mono same least
    simp only [roundFraction, same]
    split
    · next up =>
        have doubled : 2 * (numerator % denominator) * another ≤
            2 * (other % another) * denominator := by
          rw [Nat.mul_assoc, Nat.mul_assoc]
          exact Nat.mul_le_mul_left 2 remainders
        have upToo : another < 2 * (other % another) ∨
            2 * (other % another) = another ∧ other / another % 2 = 1 := by
          obtain above | ⟨tie, odd⟩ := up
          · refine .inl (Nat.lt_of_mul_lt_mul_right (a := denominator) ?_)
            calc another * denominator = denominator * another := Nat.mul_comm _ _
              _ < 2 * (numerator % denominator) * another := Nat.mul_lt_mul_of_pos_right above positiveToo
              _ ≤ 2 * (other % another) * denominator := doubled
          · rw [tie, Nat.mul_comm] at doubled
            have reaches := Nat.le_of_mul_le_mul_right doubled positive
            omega
        rw [if_pos upToo]
    · split <;> omega

theorem roundFraction_one (n : Nat) : roundFraction n 1 = n := by
  simp [roundFraction, Nat.mod_one]

theorem fractionSize_cast : (fractionSize : ℚ) = 2 ^ 52 := by
  norm_num [fractionSize, Nat.shiftLeft_eq]

/-- The exponent of the last place that is kept of a worth: 53 places are kept at most, and fewer only
at the least exponent. -/
structure Fits (worth : ℚ) (place : Int) : Prop where
  least : minExponent ≤ place
  below : worth < 2 * fractionSize * 2 ^ place
  full : place = minExponent ∨ fractionSize * 2 ^ place ≤ worth

theorem Fits.mono {worth greater : ℚ} {place higher : Int} (fits : Fits worth place)
    (fitsToo : Fits greater higher) (order : worth ≤ greater) : place ≤ higher := by
  by_contra falls
  have steps : higher + 1 ≤ place := by omega
  obtain lowest | full := fits.full
  · have := fitsToo.least
    omega
  · have powers : (2 : ℚ) ^ (higher + 1) ≤ 2 ^ place := zpow_le_zpow_right₀ (by norm_num) steps
    have size : (0 : ℚ) < fractionSize := by norm_num [fractionSize_cast]
    have reaches : greater < greater := by
      calc greater < 2 * fractionSize * 2 ^ higher := fitsToo.below
        _ = fractionSize * 2 ^ (higher + 1) := by
          rw [zpow_add₀ (by norm_num), zpow_one]
          ring
        _ ≤ fractionSize * 2 ^ place := by gcongr
        _ ≤ worth := full
        _ ≤ greater := order
    exact lt_irrefl _ reaches

theorem ratio_bracket (some : 0 < numerator) (positive : 0 < denominator) :
    (2 : ℚ) ^ ((numerator.log2 : Int) - denominator.log2 - 1) ≤ ratio (numerator, denominator) ∧
      ratio (numerator, denominator) < 2 ^ ((numerator.log2 : Int) - denominator.log2 + 1) := by
  have above : (2 : ℚ) ^ numerator.log2 ≤ numerator := by
    exact_mod_cast Nat.log2_self_le some.ne'
  have below : (numerator : ℚ) < 2 ^ (numerator.log2 + 1) := by
    exact_mod_cast Nat.lt_log2_self
  have aboveToo : (2 : ℚ) ^ denominator.log2 ≤ denominator := by
    exact_mod_cast Nat.log2_self_le positive.ne'
  have belowToo : (denominator : ℚ) ≤ 2 ^ (denominator.log2 + 1) := by
    exact_mod_cast Nat.lt_log2_self.le
  have size : (0 : ℚ) < denominator := by exact_mod_cast positive
  have lower : (2 : ℚ) ^ ((numerator.log2 : Int) - denominator.log2 - 1) =
      2 ^ numerator.log2 / 2 ^ (denominator.log2 + 1) := by
    rw [show (numerator.log2 : Int) - denominator.log2 - 1 =
      (numerator.log2 : Int) - ((denominator.log2 + 1 : Nat) : Int) by push_cast; ring,
      zpow_sub₀ (by norm_num), zpow_natCast, zpow_natCast]
  have upper : (2 : ℚ) ^ ((numerator.log2 : Int) - denominator.log2 + 1) =
      2 ^ (numerator.log2 + 1) / 2 ^ denominator.log2 := by
    rw [show (numerator.log2 : Int) - denominator.log2 + 1 =
      ((numerator.log2 + 1 : Nat) : Int) - (denominator.log2 : Int) by push_cast; ring,
      zpow_sub₀ (by norm_num), zpow_natCast, zpow_natCast]
  rw [lower, upper, ratio]
  constructor
  · gcongr
  · calc (numerator : ℚ) / denominator ≤ numerator / 2 ^ denominator.log2 := by gcongr
      _ < 2 ^ (numerator.log2 + 1) / 2 ^ denominator.log2 := by gcongr

theorem le_quotient_iff (positive : 0 < denominator) {bound : Nat} :
    bound ≤ numerator / denominator ↔ (bound : ℚ) ≤ ratio (numerator, denominator) := by
  have size : (0 : ℚ) < denominator := by exact_mod_cast positive
  rw [Nat.le_div_iff_mul_le positive, ratio, le_div_iff₀ size]
  exact_mod_cast Iff.rfl

theorem placeOf_fits (some : 0 < numerator) (positive : 0 < denominator) :
    Fits (ratio (numerator, denominator)) (placeOf numerator denominator) := by
  obtain ⟨lower, upper⟩ := ratio_bracket some positive
  obtain ⟨guess, guessed⟩ : ∃ guess : Int,
      guess = max ((numerator.log2 : Int) - denominator.log2 - 53) minExponent := ⟨_, rfl⟩
  have size : (0 : ℚ) < 2 ^ guess := by positivity
  have enough : (2 * fractionSize ≤
      (scaled numerator denominator guess).1 / (scaled numerator denominator guess).2) ↔
      2 * fractionSize * (2 : ℚ) ^ guess ≤ ratio (numerator, denominator) := by
    rw [le_quotient_iff (scaled_pos positive guess), ratio_scaled, le_div_iff₀ size]
    push_cast
    rfl
  have chosen : placeOf numerator denominator =
      if 2 * fractionSize * (2 : ℚ) ^ guess ≤ ratio (numerator, denominator) then guess + 1
      else guess := by
    simp only [placeOf, ← guessed, enough]
  have next : (2 : ℚ) ^ (guess + 1) = 2 * 2 ^ guess := by
    rw [zpow_add₀ (by norm_num), zpow_one, mul_comm]
  -- The logarithms tell the place up to one, and the quotient at the guess tells which one it is.
  rw [chosen]
  split
  · next large =>
      refine ⟨by omega, ?_, .inr ?_⟩
      · calc ratio (numerator, denominator) < 2 ^ ((numerator.log2 : Int) - denominator.log2 + 1) := upper
          _ ≤ 2 ^ (guess + 54) := zpow_le_zpow_right₀ (by norm_num) (by omega)
          _ = 2 * fractionSize * 2 ^ (guess + 1) := by
            rw [zpow_add₀ (by norm_num), next, fractionSize_cast]
            norm_num
            ring
      · rw [next]
        linarith
  · next small =>
      refine ⟨by omega, not_le.mp small, ?_⟩
      obtain least | wide : guess = minExponent ∨
          guess = (numerator.log2 : Int) - denominator.log2 - 53 := by omega
      · exact .inl least
      · refine .inr ?_
        calc fractionSize * (2 : ℚ) ^ guess = 2 ^ (guess + 52) := by
              rw [zpow_add₀ (by norm_num), fractionSize_cast, mul_comm]
              norm_num
          _ = 2 ^ ((numerator.log2 : Int) - denominator.log2 - 1) := by
              rw [wide]
              ring_nf
          _ ≤ ratio (numerator, denominator) := lower

/-- The integer that is kept of a fraction at a place. -/
def kept (numerator denominator : Nat) (place : Int) : Nat :=
  roundFraction (scaled numerator denominator place).1 (scaled numerator denominator place).2

theorem kept_mono (positive : 0 < denominator) (positiveToo : 0 < another) (place : Int)
    (order : ratio (numerator, denominator) ≤ ratio (other, another)) :
    kept numerator denominator place ≤ kept other another place := by
  refine roundFraction_mono (scaled_pos positive place) (scaled_pos positiveToo place) ?_
  have size : (0 : ℚ) < 2 ^ place := by positivity
  rw [ratio_scaled, ratio_scaled]
  exact div_le_div_of_nonneg_right order size.le

theorem kept_le (positive : 0 < denominator) {place : Int}
    (fits : Fits (ratio (numerator, denominator)) place) :
    kept numerator denominator place ≤ 2 * fractionSize := by
  have size : (0 : ℚ) < 2 ^ place := by positivity
  calc kept numerator denominator place ≤ roundFraction (2 * fractionSize) 1 := by
        refine roundFraction_mono (scaled_pos positive place) Nat.one_pos ?_
        rw [ratio_scaled, ratio, Nat.cast_one, div_one, div_le_iff₀ size]
        push_cast
        exact fits.below.le
    _ = 2 * fractionSize := roundFraction_one _

theorem le_kept (positive : 0 < denominator) {place : Int}
    (full : fractionSize * 2 ^ place ≤ ratio (numerator, denominator)) :
    fractionSize ≤ kept numerator denominator place := by
  have size : (0 : ℚ) < 2 ^ place := by positivity
  calc fractionSize = roundFraction fractionSize 1 := (roundFraction_one _).symm
    _ ≤ kept numerator denominator place := by
        refine roundFraction_mono Nat.one_pos (scaled_pos positive place) ?_
        rw [ratio_scaled, ratio, Nat.cast_one, div_one, le_div_iff₀ size]
        exact full

theorem nearestMagnitude_of_pos (some : 0 < numerator) :
    nearestMagnitude numerator denominator =
      min ((placeOf numerator denominator - minExponent).toNat * fractionSize +
        kept numerator denominator (placeOf numerator denominator)) infiniteMagnitude := by
  rw [nearestMagnitude, if_neg some.ne']
  rfl

theorem nearestMagnitude_mono (positive : 0 < denominator) (positiveToo : 0 < another)
    (order : ratio (numerator, denominator) ≤ ratio (other, another)) :
    nearestMagnitude numerator denominator ≤ nearestMagnitude other another := by
  obtain rfl | some := Nat.eq_zero_or_pos numerator
  · exact Nat.zero_le _
  have someToo : 0 < other := by
    have crossed := (ratio_le_ratio positive positiveToo).mp order
    by_contra none
    have product : 0 < numerator * another := Nat.mul_pos some positiveToo
    simp only [Nat.not_lt.mp none |> Nat.le_zero.mp, Nat.zero_mul] at crossed
    omega
  rw [nearestMagnitude_of_pos some, nearestMagnitude_of_pos someToo]
  refine min_le_min_right _ ?_
  have fits := placeOf_fits some positive
  have fitsToo := placeOf_fits someToo positiveToo
  obtain higher | same := (fits.mono fitsToo order).lt_or_eq
  · -- What is kept falls by half at most, and a higher place makes up for that.
    have lifted : (placeOf numerator denominator - minExponent).toNat + 1 ≤
        (placeOf other another - minExponent).toNat := by
      have := fits.least
      omega
    have full : fractionSize ≤ kept other another (placeOf other another) := by
      refine le_kept positiveToo (fitsToo.full.resolve_left ?_)
      have := fits.least
      omega
    calc (placeOf numerator denominator - minExponent).toNat * fractionSize +
          kept numerator denominator (placeOf numerator denominator)
        ≤ (placeOf numerator denominator - minExponent).toNat * fractionSize + 2 * fractionSize :=
          Nat.add_le_add_left (kept_le positive fits) _
      _ = ((placeOf numerator denominator - minExponent).toNat + 1) * fractionSize + fractionSize := by
          ring
      _ ≤ (placeOf other another - minExponent).toNat * fractionSize +
            kept other another (placeOf other another) :=
          Nat.add_le_add (Nat.mul_le_mul_right _ lifted) full
  · rw [same]
    exact Nat.add_le_add_left (kept_mono positive positiveToo _ order) _

end Notary.Binary64
