namespace Notary

/-!
Binary floating point with 64 bits, in exact arithmetic on naturals: every operation computes its
true result as a fraction and rounds it to the nearest representable value, a tie going to the even
one.
-/

/-- The bits of a floating-point number: sign, eleven bits of exponent, 52 bits of fraction. -/
structure Binary64 where
  bits : BitVec 64
  deriving DecidableEq, Repr, Inhabited

namespace Binary64

/-- What the bits stand for. A finite value is `mantissa * 2 ^ exponent` with its sign. -/
inductive Value where
  | nan
  | infinite (negative : Bool)
  | finite (negative : Bool) (mantissa : Nat) (exponent : Int)
  deriving DecidableEq, Repr

def fractionSize : Nat := 1 <<< 52

/-- The exponent of the smallest values. -/
def minExponent : Int := -1074

/-- The bits of positive infinity, and the first magnitude that is no finite value. -/
def infiniteMagnitude : Nat := 2047 * fractionSize

def signBit : Nat := 1 <<< 63

def value (number : Binary64) : Value :=
  let all := number.bits.toNat
  let negative := decide (signBit ≤ all)
  let magnitude := all % signBit
  let exponent := magnitude / fractionSize
  let fraction := magnitude % fractionSize
  if exponent = 2047 then
    if fraction = 0 then .infinite negative else .nan
  else if exponent = 0 then .finite negative fraction minExponent
  else .finite negative (fractionSize + fraction) (minExponent + exponent - 1)

def ofMagnitude (negative : Bool) (magnitude : Nat) : Binary64 :=
  ⟨BitVec.ofNat 64 ((if negative then signBit else 0) + magnitude)⟩

def nan : Binary64 := ofMagnitude false (infiniteMagnitude + fractionSize / 2)

def infinite (negative : Bool) : Binary64 :=
  ofMagnitude negative infiniteMagnitude

/-- The fraction `(numerator / denominator) / 2 ^ exponent`. -/
def scaled (numerator denominator : Nat) (exponent : Int) : Nat × Nat :=
  if 0 ≤ exponent then (numerator, denominator <<< exponent.toNat)
  else (numerator <<< (-exponent).toNat, denominator)

/-- The fraction as an integer, rounded to nearest, a tie to even. -/
def roundFraction (numerator denominator : Nat) : Nat :=
  let quotient := numerator / denominator
  let twice := 2 * (numerator % denominator)
  if denominator < twice ∨ (twice = denominator ∧ quotient % 2 = 1) then quotient + 1 else quotient

/-- The exponent of the last place kept of a positive fraction. -/
def placeOf (numerator denominator : Nat) : Int :=
  let guess : Int := max ((numerator.log2 : Int) - (denominator.log2 : Int) - 53) minExponent
  let (n, d) := scaled numerator denominator guess
  if 2 * fractionSize ≤ n / d then guess + 1 else guess

/-- The magnitude bits of the value nearest to a fraction. -/
def nearestMagnitude (numerator denominator : Nat) : Nat :=
  if numerator = 0 then 0
  else
    let place := placeOf numerator denominator
    let (n, d) := scaled numerator denominator place
    let magnitude := (place - minExponent).toNat * fractionSize + roundFraction n d
    min magnitude infiniteMagnitude

def ofFraction (negative : Bool) (numerator denominator : Nat) : Binary64 :=
  ofMagnitude negative (nearestMagnitude numerator denominator)

def ofNat (n : Nat) : Binary64 :=
  ofFraction false n 1

/-- The value nearest to a decimal, `digits * 10 ^ exponent`. Decimals far beyond either end of the
range are settled by their size alone. -/
def ofDecimal (negative : Bool) (digits : Nat) (exponent : Int) : Binary64 :=
  let order := exponent + (Nat.toDigits 10 digits).length
  if digits = 0 ∨ order < -330 then ofMagnitude negative 0
  else if 310 < order then infinite negative
  else if 0 ≤ exponent then ofFraction negative (digits * Nat.pow 10 exponent.toNat) 1
  else ofFraction negative digits (Nat.pow 10 (-exponent).toNat)

/-- The product of two finite values is rounded once. -/
def mul (left right : Binary64) : Binary64 :=
  match left.value, right.value with
  | .nan, _ | _, .nan => nan
  | .infinite n, .infinite m => infinite (n != m)
  | .infinite n, .finite m mantissa _ => if mantissa = 0 then nan else infinite (n != m)
  | .finite n mantissa _, .infinite m => if mantissa = 0 then nan else infinite (n != m)
  | .finite n p e, .finite m q f =>
      let exponent := e + f
      if 0 ≤ exponent then ofFraction (n != m) ((p * q) <<< exponent.toNat) 1
      else ofFraction (n != m) (p * q) (1 <<< (-exponent).toNat)

def isPositive (number : Binary64) : Bool :=
  match number.value with
  | .nan => false
  | .infinite negative => !negative
  | .finite negative mantissa _ => !negative && mantissa != 0

/-- The integer part within an unsigned word of `bits` bits: what is not above zero gives zero, and
what is too great gives the greatest word. -/
def toWord (bits : Nat) (number : Binary64) : Nat :=
  let greatest := (1 <<< bits) - 1
  match number.value with
  | .nan => 0
  | .infinite negative => if negative then 0 else greatest
  | .finite negative mantissa exponent =>
      if negative then 0
      else if 0 ≤ exponent then min (mantissa <<< exponent.toNat) greatest
      else min (mantissa >>> (-exponent).toNat) greatest

end Binary64

end Notary
