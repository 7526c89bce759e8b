import Notary.Hash.Sha256

namespace Notary.Secp256k1

/-!
The curve `y ^ 2 = x ^ 3 + 7` over the field of `fieldPrime` elements, and deterministic signatures
on it. Points are added in Jacobian coordinates, where `(x, y, z)` stands for `(x / z^2, y / z^3)`
and `z = 0` for the point at infinity.
-/

def fieldPrime : Nat :=
  0xfffffffffffffffffffffffffffffffffffffffffffffffffffffffefffffc2f

def order : Nat :=
  0xfffffffffffffffffffffffffffffffebaaedce6af48a03bbfd25e8cd0364141

structure Point where
  x : Nat
  y : Nat
  deriving DecidableEq, Repr

def generator : Point where
  x := 0x79be667ef9dcbbac55a06295ce870b07029bfcdb2dce28d959f2815b16f81798
  y := 0x483ada7726a3c4655da4fbfc0e1108a8fd17b448a68554199c47d08ffb10d4b8

structure Jacobian where
  x : Nat
  y : Nat
  z : Nat
  deriving DecidableEq, Repr

def Jacobian.infinity : Jacobian := ⟨1, 1, 0⟩

@[inline] def minus (modulus left right : Nat) : Nat :=
  (left + (modulus - right % modulus)) % modulus

/-- `base ^ exponent` modulo `modulus`, by the `bits` low bits of the exponent. -/
def power (modulus base exponent : Nat) : (bits : Nat) → Nat
  | 0 => 1 % modulus
  | bits + 1 =>
      let square := power modulus base (exponent / 2) bits
      let square := square * square % modulus
      if exponent % 2 = 1 then square * base % modulus else square

/-- The inverse of a non-zero residue modulo a prime of at most 256 bits. -/
def inverse (modulus value : Nat) : Nat :=
  power modulus value (modulus - 2) 256

def Jacobian.double (p : Jacobian) : Jacobian :=
  if p.z = 0 then p
  else
    let square := p.y * p.y % fieldPrime
    let s := 4 * p.x * square % fieldPrime
    let m := 3 * p.x * p.x % fieldPrime
    let x := minus fieldPrime (m * m) (2 * s)
    let y := minus fieldPrime (m * minus fieldPrime s x) (8 * square * square)
    ⟨x, y, 2 * p.y * p.z % fieldPrime⟩

def Jacobian.add (p : Jacobian) (q : Point) : Jacobian :=
  if p.z = 0 then ⟨q.x, q.y, 1⟩
  else
    let zz := p.z * p.z % fieldPrime
    let h := minus fieldPrime (q.x * zz) p.x
    let r := minus fieldPrime (q.y * (p.z * zz % fieldPrime)) p.y
    if h = 0 then
      if r = 0 then p.double else .infinity
    else
      let hh := h * h % fieldPrime
      let hhh := h * hh % fieldPrime
      let v := p.x * hh % fieldPrime
      let x := minus fieldPrime (r * r) (hhh + 2 * v)
      let y := minus fieldPrime (r * minus fieldPrime v x) (p.y * hhh)
      ⟨x, y, p.z * h % fieldPrime⟩

/-- Doubles the sum once for each of the `bits` low bits of the factor, most significant bit first,
and adds the point where the bit is set. -/
def Jacobian.accumulate (p : Point) (factor : Nat) : (bits : Nat) → Jacobian → Jacobian
  | 0, sum => sum
  | bits + 1, sum =>
      let doubled := sum.double
      accumulate p factor bits (if factor.testBit bits then doubled.add p else doubled)

/-- The point in plain coordinates; `none` at infinity. -/
def Jacobian.toPoint? (p : Jacobian) : Option Point :=
  if p.z = 0 then none
  else
    let i := inverse fieldPrime p.z
    let ii := i * i % fieldPrime
    some ⟨p.x * ii % fieldPrime, p.y * (ii * i % fieldPrime) % fieldPrime⟩

def multiply (factor : Nat) (p : Point) : Option Point :=
  (Jacobian.accumulate p factor 256 .infinity).toPoint?

structure PrivateKey where
  scalar : Nat
  pos : 0 < scalar
  lt_order : scalar < order
  deriving DecidableEq

namespace PrivateKey

def ofNat? (scalar : Nat) : Option PrivateKey :=
  if h : 0 < scalar ∧ scalar < order then some ⟨scalar, h.1, h.2⟩ else none

instance : Inhabited PrivateKey := ⟨⟨1, by decide, by decide⟩⟩

def toBytes (key : PrivateKey) : Bytes :=
  Bytes.ofNatBE 32 key.scalar

def publicKey (key : PrivateKey) : Point :=
  (multiply key.scalar generator).getD generator

end PrivateKey

/-- The point with its first coordinate and the parity of its second. -/
def Point.compressed (p : Point) : Bytes :=
  (if p.y % 2 = 0 then 0x02 else 0x03) :: Bytes.ofNatBE 32 p.x

/-- Both coordinates, 32 bytes each. -/
def Point.toBytes (p : Point) : Bytes :=
  Bytes.ofNatBE 32 p.x ++ Bytes.ofNatBE 32 p.y

/-- A signature whose `s` is at most half the order, with the parity of the second coordinate of the
point that gave `r`. -/
structure Signature where
  r : Nat
  s : Nat
  odd : Bool
  deriving DecidableEq, Repr

/-- The signature that the nonce `k` gives, if it gives one. -/
def signWith? (key : PrivateKey) (digest k : Nat) : Option Signature :=
  if k = 0 ∨ order ≤ k then none
  else
    match multiply k generator with
    | none => none
    | some p =>
        let r := p.x % order
        let s := inverse order k * ((digest + r * key.scalar) % order) % order
        if r = 0 ∨ s = 0 then none
        else if order / 2 < s then some ⟨r, order - s, p.y % 2 = 0⟩
        else some ⟨r, s, p.y % 2 = 1⟩

/-- The first result of as many tries, each in the state to which the one before moves on. -/
def firstOf {α β : Type} (test : α → Option β) (next : α → α) : (tries : Nat) → α → Option β
  | 0, _ => none
  | tries + 1, state =>
      match test state with
      | some result => some result
      | none => firstOf test next tries (next state)

/-- The key and the value of the deterministic generator after a candidate that gave no signature. -/
def nextCandidate : Bytes × Bytes → Bytes × Bytes
  | (k, v) =>
      let k := Sha256.hmac k (v ++ [0x00])
      (k, Sha256.hmac k (Sha256.hmac k v))

/-- Tries the candidate nonces of the deterministic generator with the key `k` and the value `v`. -/
def attempt (key : PrivateKey) (digest attempts : Nat) (k v : Bytes) : Option Signature :=
  firstOf (fun state => signWith? key digest (Bytes.toNatBE state.2)) nextCandidate attempts
    (k, Sha256.hmac k v)

/-- Signs a digest. The nonce is drawn from the key and the digest, so equal inputs give equal
signatures. -/
def sign (key : PrivateKey) (digest : Hash) : Option Signature :=
  let z := digest.word.toNat % order
  let material := key.toBytes ++ Bytes.ofNatBE 32 z
  let v := List.replicate 32 (0x01 : UInt8)
  let k := List.replicate 32 (0x00 : UInt8)
  let k := Sha256.hmac k (v ++ 0x00 :: material)
  let v := Sha256.hmac k v
  let k := Sha256.hmac k (v ++ 0x01 :: material)
  let v := Sha256.hmac k v
  attempt key z 64 k v

end Notary.Secp256k1
