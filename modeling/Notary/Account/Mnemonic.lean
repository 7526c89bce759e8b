import Notary.Account.WordList
import Notary.Hash.Sha256
import Notary.Hash.Sha512

namespace Notary

namespace Stretch

def xor (left right : Bytes) : Bytes :=
  List.zipWith (· ^^^ ·) left right

/-- Folds `count` further digests into the block. -/
def iterate (mac : Sha512.Mac) : (count : Nat) → (last block : Bytes) → Bytes
  | 0, _, block => block
  | count + 1, last, block =>
      let next := mac.sign last
      iterate mac count next (xor block next)

/-- The first 64-byte block of the iterated, keyed digest of a password and a salt. -/
def derive (password salt : Bytes) (rounds : Nat) : Bytes :=
  let mac := Sha512.Mac.ofKey password
  let first := mac.sign (salt ++ [0, 0, 0, 1])
  iterate mac (rounds - 1) first first

end Stretch

namespace Mnemonic

/-!
Mnemonic phrases. The words of a phrase write, at eleven bits a word, some entropy and then the
first bits of its digest; a phrase is good when writing its entropy again gives the same words.
-/

inductive Problem where
  | unknownWord (word : String)
  /-- So many bytes of entropy and checksum are not those of any phrase. -/
  | wrongLength (bytes : Nat)
  /-- The last bits are not the digest's. -/
  | wrongChecksum (phrase : String)
  deriving DecidableEq, Repr

def Problem.message : Problem → String
  | unknownWord word => "the word `" ++ word ++ "` is invalid"
  | wrongLength bytes => "the mnemonic's entropy length `" ++ toString bytes ++ "` is invalid"
  | wrongChecksum phrase => "the phrase `" ++ phrase ++ "` is invalid"

/-- The items between single spaces, empty ones included. -/
def split : List Char → List (List Char)
  | [] => [[]]
  | c :: rest =>
      if c = ' ' then [] :: split rest
      else
        match split rest with
        | [] => [[c]]
        | item :: items => (c :: item) :: items

/-- The index of each item, or the first item that is not in the list. -/
def indices : List (List Char) → Except Problem (List Nat)
  | [] => .ok []
  | item :: rest =>
      match WordList.index? (String.ofList item) with
      | none => .error (.unknownWord (String.ofList item))
      | some index => (indices rest).map (index :: ·)

/-- Bytes that the words of a phrase fill, the last one perhaps in part. -/
def filledBytes (words : Nat) : Nat :=
  (11 * words + 7) / 8

def entropyBytes? (filled : Nat) : Option Nat :=
  if filled ∈ [16, 17, 20, 21, 24, 25, 28, 29, 32, 33] then some (filled / 4 * 4) else none

/-- The number that the indices write at eleven bits each. -/
def number (indices : List Nat) : Nat :=
  indices.foldl (fun value index => value * 2048 + index) 0

/-- The first `bytes` bytes of what the indices write. -/
def entropy (indices : List Nat) (bytes : Nat) : Bytes :=
  Bytes.ofNatBE bytes ((number indices <<< (8 * bytes)) >>> (11 * indices.length))

def ofEntropy (entropy : Bytes) : List Nat :=
  let checksumBits := entropy.length / 4
  let checksum := Bytes.toNatBE (Sha256.hash entropy) >>> (256 - checksumBits)
  let value := (Bytes.toNatBE entropy <<< checksumBits) + checksum
  let count := (8 * entropy.length + checksumBits) / 11
  (List.range count).map fun position => (value >>> (11 * (count - 1 - position))) % 2048

/-- Checks the words of a phrase, its length and its checksum, in this order. -/
def check (phrase : List Char) : Except Problem Unit := do
  let found ← indices (split phrase)
  match entropyBytes? (filledBytes found.length) with
  | none => .error (.wrongLength (filledBytes found.length))
  | some bytes =>
      if ofEntropy (entropy found bytes) = found then .ok ()
      else .error (.wrongChecksum (String.ofList phrase))

def secret (phrase : List Char) : Bytes :=
  Stretch.derive (Bytes.ofText (String.ofList phrase)) (Bytes.ofText "mnemonic") 2048

end Mnemonic

end Notary
