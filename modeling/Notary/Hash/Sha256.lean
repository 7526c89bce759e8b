import Notary.Bytes

namespace Notary.Sha256

/-!
The SHA-256 digest: words of 32 bits, blocks of 64 bytes, 64 rounds.
-/

/-- One constant a round: the first fractional bits of the cube roots of the first primes. -/
def roundConstants : Array UInt32 := #[
    0x428a2f98, 0x71374491, 0xb5c0fbcf, 0xe9b5dba5,
    0x3956c25b, 0x59f111f1, 0x923f82a4, 0xab1c5ed5,
    0xd807aa98, 0x12835b01, 0x243185be, 0x550c7dc3,
    0x72be5d74, 0x80deb1fe, 0x9bdc06a7, 0xc19bf174,
    0xe49b69c1, 0xefbe4786, 0x0fc19dc6, 0x240ca1cc,
    0x2de92c6f, 0x4a7484aa, 0x5cb0a9dc, 0x76f988da,
    0x983e5152, 0xa831c66d, 0xb00327c8, 0xbf597fc7,
    0xc6e00bf3, 0xd5a79147, 0x06ca6351, 0x14292967,
    0x27b70a85, 0x2e1b2138, 0x4d2c6dfc, 0x53380d13,
    0x650a7354, 0x766a0abb, 0x81c2c92e, 0x92722c85,
    0xa2bfe8a1, 0xa81a664b, 0xc24b8b70, 0xc76c51a3,
    0xd192e819, 0xd6990624, 0xf40e3585, 0x106aa070,
    0x19a4c116, 0x1e376c08, 0x2748774c, 0x34b0bcb5,
    0x391c0cb3, 0x4ed8aa4a, 0x5b9cca4f, 0x682e6ff3,
    0x748f82ee, 0x78a5636f, 0x84c87814, 0x8cc70208,
    0x90befffa, 0xa4506ceb, 0xbef9a3f7, 0xc67178f2]

structure State where
  a : UInt32
  b : UInt32
  c : UInt32
  d : UInt32
  e : UInt32
  f : UInt32
  g : UInt32
  h : UInt32

/-- The first fractional bits of the square roots of the first eight primes. -/
def State.initial : State where
  a := 0x6a09e667
  b := 0xbb67ae85
  c := 0x3c6ef372
  d := 0xa54ff53a
  e := 0x510e527f
  f := 0x9b05688c
  g := 0x1f83d9ab
  h := 0x5be0cd19

@[inline] def rotateRight (word count : UInt32) : UInt32 :=
  (word >>> count) ||| (word <<< (32 - count))

@[inline] def bigSigma0 (x : UInt32) : UInt32 :=
  rotateRight x 2 ^^^ rotateRight x 13 ^^^ rotateRight x 22

@[inline] def bigSigma1 (x : UInt32) : UInt32 :=
  rotateRight x 6 ^^^ rotateRight x 11 ^^^ rotateRight x 25

@[inline] def smallSigma0 (x : UInt32) : UInt32 :=
  rotateRight x 7 ^^^ rotateRight x 18 ^^^ (x >>> 3)

@[inline] def smallSigma1 (x : UInt32) : UInt32 :=
  rotateRight x 17 ^^^ rotateRight x 19 ^^^ (x >>> 10)

@[inline] def choose (x y z : UInt32) : UInt32 :=
  (x &&& y) ^^^ (~~~x &&& z)

@[inline] def majority (x y z : UInt32) : UInt32 :=
  (x &&& y) ^^^ (x &&& z) ^^^ (y &&& z)

/-- The bytes as words of 4 bytes each, most significant byte first. -/
def words : Bytes → List UInt32
  | b0 :: b1 :: b2 :: b3 :: rest =>
      ((b0.toUInt32 <<< 24) ||| (b1.toUInt32 <<< 16) ||| (b2.toUInt32 <<< 8) ||| b3.toUInt32)
        :: words rest
  | _ => []

/-- Appends `count` further words to a message schedule. -/
def extend : (count : Nat) → Array UInt32 → Array UInt32
  | 0, schedule => schedule
  | count + 1, schedule =>
      let t := schedule.size
      let word := smallSigma1 (schedule.getD (t - 2) 0) + schedule.getD (t - 7) 0
        + smallSigma0 (schedule.getD (t - 15) 0) + schedule.getD (t - 16) 0
      extend count (schedule.push word)

/-- The last `left` of the 64 rounds. -/
def rounds (schedule : Array UInt32) : (left : Nat) → (a b c d e f g h : UInt32) → State
  | 0, a, b, c, d, e, f, g, h => ⟨a, b, c, d, e, f, g, h⟩
  | left + 1, a, b, c, d, e, f, g, h =>
      let t := 64 - (left + 1)
      let t1 := h + bigSigma1 e + choose e f g + roundConstants.getD t 0 + schedule.getD t 0
      let t2 := bigSigma0 a + majority a b c
      rounds schedule left (t1 + t2) a b c (d + t1) e f g

def compress (s : State) (block : Bytes) : State :=
  let schedule := extend 48 (words block).toArray
  let r := rounds schedule 64 s.a s.b s.c s.d s.e s.f s.g s.h
  ⟨s.a + r.a, s.b + r.b, s.c + r.c, s.d + r.d, s.e + r.e, s.f + r.f, s.g + r.g, s.h + r.h⟩

/-- The end of a message: the marker, the zeros and the length in bits that fill the last block. -/
def pad (length : Nat) (tail : Bytes) : Bytes :=
  let zeros := (55 + 64 - tail.length % 64) % 64
  tail ++ 0x80 :: (List.replicate zeros 0 ++ Bytes.ofNatBE 8 (8 * length))

def absorb : (count : Nat) → State → Bytes → State
  | 0, s, _ => s
  | count + 1, s, bytes => absorb count (compress s (bytes.take 64)) (bytes.drop 64)

def wordBytes (word : UInt32) : Bytes :=
  Bytes.ofNatBE 4 word.toNat

def State.toBytes (s : State) : Bytes :=
  wordBytes s.a ++ wordBytes s.b ++ wordBytes s.c ++ wordBytes s.d
    ++ wordBytes s.e ++ wordBytes s.f ++ wordBytes s.g ++ wordBytes s.h

/-- The digest of a message whose first `before` bytes led to the state `s`. -/
def finish (s : State) (before : Nat) (rest : Bytes) : Bytes :=
  let padded := pad (before + rest.length) rest
  (absorb (padded.length / 64) s padded).toBytes

def hash (message : Bytes) : Bytes :=
  finish .initial 0 message

/-- Message authentication with a key: the keyed digest of the keyed digest. The two chaining values
depend on the key alone. -/
structure Mac where
  inner : State
  outer : State

def Mac.ofKey (key : Bytes) : Mac :=
  let short := if 64 < key.length then hash key else key
  let block := short ++ List.replicate (64 - short.length) 0
  ⟨compress .initial (block.map (· ^^^ 0x36)), compress .initial (block.map (· ^^^ 0x5c))⟩

def Mac.sign (mac : Mac) (message : Bytes) : Bytes :=
  finish mac.outer 64 (finish mac.inner 64 message)

def hmac (key message : Bytes) : Bytes :=
  (Mac.ofKey key).sign message

end Notary.Sha256
