import Notary.Bytes

namespace Notary.Keccak

/-!
The 256-bit Keccak digest, with `0x01` as the first padding byte. The state has twenty-five lanes of
64 bits; lane `x + 5 * y` stands in column `x` and row `y`.
-/

abbrev Lanes := Array UInt64

def roundConstants : List UInt64 := [
    0x0000000000000001, 0x0000000000008082, 0x800000000000808a,
    0x8000000080008000, 0x000000000000808b, 0x0000000080000001,
    0x8000000080008081, 0x8000000000008009, 0x000000000000008a,
    0x0000000000000088, 0x0000000080008009, 0x000000008000000a,
    0x000000008000808b, 0x800000000000008b, 0x8000000000008089,
    0x8000000000008003, 0x8000000000008002, 0x8000000000000080,
    0x000000000000800a, 0x800000008000000a, 0x8000000080008081,
    0x8000000000008080, 0x0000000080000001, 0x8000000080008008]

/-- How far each lane turns. -/
def turns : Array UInt64 := #[
    0, 1, 62, 28, 27, 36, 44, 6, 55, 20, 3, 10, 43, 25, 39, 41, 45, 15, 21, 8, 18, 2, 61, 56, 14]

/-- The lane that moves to each place. -/
def sources : Array Nat := #[
    0, 6, 12, 18, 24, 3, 9, 10, 16, 22, 1, 7, 13, 19, 20, 4, 5, 11, 17, 23, 2, 8, 14, 15, 21]

@[inline] def rotateLeft (word count : UInt64) : UInt64 :=
  if count = 0 then word else (word <<< count) ||| (word >>> (64 - count))

@[inline] def lane (a : Lanes) (i : Nat) : UInt64 :=
  a.getD i 0

/-- The parity of column `x`. -/
@[inline] def parity (a : Lanes) (x : Nat) : UInt64 :=
  lane a x ^^^ lane a (x + 5) ^^^ lane a (x + 10) ^^^ lane a (x + 15) ^^^ lane a (x + 20)

/-- Mixes the parities of the two neighbouring columns into each lane. -/
def theta (a : Lanes) : Lanes :=
  let c := Array.ofFn (n := 5) fun x => parity a x.val
  let d := Array.ofFn (n := 5) fun x =>
    lane c ((x.val + 4) % 5) ^^^ rotateLeft (lane c ((x.val + 1) % 5)) 1
  Array.ofFn (n := 25) fun i => lane a i.val ^^^ lane d (i.val % 5)

/-- Turns each lane and moves it to its place. -/
def rhoPi (a : Lanes) : Lanes :=
  Array.ofFn (n := 25) fun i =>
    let source := sources.getD i.val 0
    rotateLeft (lane a source) (turns.getD source 0)

/-- Combines each lane with the next two of its row. -/
def chi (a : Lanes) : Lanes :=
  Array.ofFn (n := 25) fun i =>
    let row := i.val / 5 * 5
    lane a i.val ^^^ (~~~(lane a (row + (i.val + 1) % 5)) &&& lane a (row + (i.val + 2) % 5))

def round (a : Lanes) (constant : UInt64) : Lanes :=
  (chi (rhoPi (theta a))).modify 0 (· ^^^ constant)

def permute (a : Lanes) : Lanes :=
  roundConstants.foldl round a

/-- Bytes taken in before each permutation. -/
def rate : Nat := 136

/-- The bytes as lanes of eight bytes each, least significant byte first. -/
def lanesOf : Bytes → List UInt64
  | b0 :: b1 :: b2 :: b3 :: b4 :: b5 :: b6 :: b7 :: rest =>
      (b0.toUInt64 ||| (b1.toUInt64 <<< 8) ||| (b2.toUInt64 <<< 16) ||| (b3.toUInt64 <<< 24)
        ||| (b4.toUInt64 <<< 32) ||| (b5.toUInt64 <<< 40) ||| (b6.toUInt64 <<< 48)
        ||| (b7.toUInt64 <<< 56)) :: lanesOf rest
  | _ => []

/-- Adds the lanes of a block to the state, from lane `i` on. -/
def mix : (i : Nat) → Lanes → List UInt64 → Lanes
  | _, a, [] => a
  | i, a, word :: rest => mix (i + 1) (a.modify i (· ^^^ word)) rest

def absorb : (count : Nat) → Lanes → Bytes → Lanes
  | 0, a, _ => a
  | count + 1, a, bytes =>
      absorb count (permute (mix 0 a (lanesOf (bytes.take rate)))) (bytes.drop rate)

/-- The message filled up to whole blocks: a first bit after it and a last bit of the block. -/
def pad (message : Bytes) : Bytes :=
  let free := rate - message.length % rate
  if free = 1 then message ++ [0x81]
  else message ++ 0x01 :: (List.replicate (free - 2) 0 ++ [0x80])

def laneBytes (word : UInt64) : Bytes :=
  Bytes.ofNatLE 8 word.toNat

def hash (message : Bytes) : Hash :=
  let padded := pad message
  let a := absorb (padded.length / rate) (Array.replicate 25 0) padded
  Hash.ofBytes
    (laneBytes (lane a 0) ++ laneBytes (lane a 1) ++ laneBytes (lane a 2) ++ laneBytes (lane a 3))

end Notary.Keccak
