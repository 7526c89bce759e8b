import Notary.Bytes

namespace Notary.Sha512

/-!
The SHA-512 digest: words of 64 bits, blocks of 128 bytes, 80 rounds.
-/

/-- One constant a round: the first fractional bits of the cube roots of the first primes. -/
def roundConstants : Array UInt64 := #[
    0x428a2f98d728ae22, 0x7137449123ef65cd, 0xb5c0fbcfec4d3b2f,
    0xe9b5dba58189dbbc, 0x3956c25bf348b538, 0x59f111f1b605d019,
    0x923f82a4af194f9b, 0xab1c5ed5da6d8118, 0xd807aa98a3030242,
    0x12835b0145706fbe, 0x243185be4ee4b28c, 0x550c7dc3d5ffb4e2,
    0x72be5d74f27b896f, 0x80deb1fe3b1696b1, 0x9bdc06a725c71235,
    0xc19bf174cf692694, 0xe49b69c19ef14ad2, 0xefbe4786384f25e3,
    0x0fc19dc68b8cd5b5, 0x240ca1cc77ac9c65, 0x2de92c6f592b0275,
    0x4a7484aa6ea6e483, 0x5cb0a9dcbd41fbd4, 0x76f988da831153b5,
    0x983e5152ee66dfab, 0xa831c66d2db43210, 0xb00327c898fb213f,
    0xbf597fc7beef0ee4, 0xc6e00bf33da88fc2, 0xd5a79147930aa725,
    0x06ca6351e003826f, 0x142929670a0e6e70, 0x27b70a8546d22ffc,
    0x2e1b21385c26c926, 0x4d2c6dfc5ac42aed, 0x53380d139d95b3df,
    0x650a73548baf63de, 0x766a0abb3c77b2a8, 0x81c2c92e47edaee6,
    0x92722c851482353b, 0xa2bfe8a14cf10364, 0xa81a664bbc423001,
    0xc24b8b70d0f89791, 0xc76c51a30654be30, 0xd192e819d6ef5218,
    0xd69906245565a910, 0xf40e35855771202a, 0x106aa07032bbd1b8,
    0x19a4c116b8d2d0c8, 0x1e376c085141ab53, 0x2748774cdf8eeb99,
    0x34b0bcb5e19b48a8, 0x391c0cb3c5c95a63, 0x4ed8aa4ae3418acb,
    0x5b9cca4f7763e373, 0x682e6ff3d6b2b8a3, 0x748f82ee5defb2fc,
    0x78a5636f43172f60, 0x84c87814a1f0ab72, 0x8cc702081a6439ec,
    0x90befffa23631e28, 0xa4506cebde82bde9, 0xbef9a3f7b2c67915,
    0xc67178f2e372532b, 0xca273eceea26619c, 0xd186b8c721c0c207,
    0xeada7dd6cde0eb1e, 0xf57d4f7fee6ed178, 0x06f067aa72176fba,
    0x0a637dc5a2c898a6, 0x113f9804bef90dae, 0x1b710b35131c471b,
    0x28db77f523047d84, 0x32caab7b40c72493, 0x3c9ebe0a15c9bebc,
    0x431d67c49c100d4c, 0x4cc5d4becb3e42b6, 0x597f299cfc657e2a,
    0x5fcb6fab3ad6faec, 0x6c44198c4a475817]

structure State where
  a : UInt64
  b : UInt64
  c : UInt64
  d : UInt64
  e : UInt64
  f : UInt64
  g : UInt64
  h : UInt64

/-- The first fractional bits of the square roots of the first eight primes. -/
def State.initial : State where
  a := 0x6a09e667f3bcc908
  b := 0xbb67ae8584caa73b
  c := 0x3c6ef372fe94f82b
  d := 0xa54ff53a5f1d36f1
  e := 0x510e527fade682d1
  f := 0x9b05688c2b3e6c1f
  g := 0x1f83d9abfb41bd6b
  h := 0x5be0cd19137e2179

@[inline] def rotateRight (word count : UInt64) : UInt64 :=
  (word >>> count) ||| (word <<< (64 - count))

@[inline] def bigSigma0 (x : UInt64) : UInt64 :=
  rotateRight x 28 ^^^ rotateRight x 34 ^^^ rotateRight x 39

@[inline] def bigSigma1 (x : UInt64) : UInt64 :=
  rotateRight x 14 ^^^ rotateRight x 18 ^^^ rotateRight x 41

@[inline] def smallSigma0 (x : UInt64) : UInt64 :=
  rotateRight x 1 ^^^ rotateRight x 8 ^^^ (x >>> 7)

@[inline] def smallSigma1 (x : UInt64) : UInt64 :=
  rotateRight x 19 ^^^ rotateRight x 61 ^^^ (x >>> 6)

@[inline] def choose (x y z : UInt64) : UInt64 :=
  (x &&& y) ^^^ (~~~x &&& z)

@[inline] def majority (x y z : UInt64) : UInt64 :=
  (x &&& y) ^^^ (x &&& z) ^^^ (y &&& z)

/-- The bytes as words of 8 bytes each, most significant byte first. -/
def words : Bytes → List UInt64
  | b0 :: b1 :: b2 :: b3 :: b4 :: b5 :: b6 :: b7 :: rest =>
      ((b0.toUInt64 <<< 56) ||| (b1.toUInt64 <<< 48) ||| (b2.toUInt64 <<< 40)
          ||| (b3.toUInt64 <<< 32) ||| (b4.toUInt64 <<< 24) ||| (b5.toUInt64 <<< 16)
          ||| (b6.toUInt64 <<< 8) ||| b7.toUInt64)
        :: words rest
  | _ => []

/-- Appends `count` further words to a message schedule. -/
def extend : (count : Nat) → Array UInt64 → Array UInt64
  | 0, schedule => schedule
  | count + 1, schedule =>
      let t := schedule.size
      let word := smallSigma1 (schedule.getD (t - 2) 0) + schedule.getD (t - 7) 0
        + smallSigma0 (schedule.getD (t - 15) 0) + schedule.getD (t - 16) 0
      extend count (schedule.push word)

/-- The last `left` of the 80 rounds. -/
def rounds (schedule : Array UInt64) : (left : Nat) → (a b c d e f g h : UInt64) → State
  | 0, a, b, c, d, e, f, g, h => ⟨a, b, c, d, e, f, g, h⟩
  | left + 1, a, b, c, d, e, f, g, h =>
      let t := 80 - (left + 1)
      let t1 := h + bigSigma1 e + choose e f g + roundConstants.getD t 0 + schedule.getD t 0
      let t2 := bigSigma0 a + majority a b c
      rounds schedule left (t1 + t2) a b c (d + t1) e f g

def compress (s : State) (block : Bytes) : State :=
  let schedule := extend 64 (words block).toArray
  let r := rounds schedule 80 s.a s.b s.c s.d s.e s.f s.g s.h
  ⟨s.a + r.a, s.b + r.b, s.c + r.c, s.d + r.d, s.e + r.e, s.f + r.f, s.g + r.g, s.h + r.h⟩

/-- The end of a message: the marker, the zeros and the length in bits that fill the last block. -/
def pad (length : Nat) (tail : Bytes) : Bytes :=
  let zeros := (111 + 128 - tail.length % 128) % 128
  tail ++ 0x80 :: (List.replicate zeros 0 ++ Bytes.ofNatBE 16 (8 * length))

def absorb : (count : Nat) → State → Bytes → State
  | 0, s, _ => s
  | count + 1, s, bytes => absorb count (compress s (bytes.take 128)) (bytes.drop 128)

def wordBytes (word : UInt64) : Bytes :=
  Bytes.ofNatBE 8 word.toNat

def State.toBytes (s : State) : Bytes :=
  wordBytes s.a ++ wordBytes s.b ++ wordBytes s.c ++ wordBytes s.d
    ++ wordBytes s.e ++ wordBytes s.f ++ wordBytes s.g ++ wordBytes s.h

/-- The digest of a message whose first `before` bytes led to the state `s`. -/
def finish (s : State) (before : Nat) (rest : Bytes) : Bytes :=
  let padded := pad (before + rest.length) rest
  (absorb (padded.length / 128) s padded).toBytes

def hash (message : Bytes) : Bytes :=
  finish .initial 0 message

/-- Message authentication with a key: the keyed digest of the keyed digest. The two chaining values
depend on the key alone. -/
structure Mac where
  inner : State
  outer : State

def Mac.ofKey (key : Bytes) : Mac :=
  let short := if 128 < key.length then hash key else key
  let block := short ++ List.replicate (128 - short.length) 0
  ⟨compress .initial (block.map (· ^^^ 0x36)), compress .initial (block.map (· ^^^ 0x5c))⟩

def Mac.sign (mac : Mac) (message : Bytes) : Bytes :=
  finish mac.outer 128 (finish mac.inner 128 message)

def hmac (key message : Bytes) : Bytes :=
  (Mac.ofKey key).sign message

end Notary.Sha512
