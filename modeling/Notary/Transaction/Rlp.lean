import Notary.Bytes

namespace Notary.Rlp

/-!
The length-tagged encoding of byte strings and of lists of them. Every value has one encoding:
reading refuses a length or a number that could have been written shorter.
-/

/-- The tag of a payload of so many bytes; `base` is 0x80 for a string and 0xc0 for a list. -/
def tag (base length : Nat) : Bytes :=
  if length < 56 then [UInt8.ofNat (base + length)]
  else
    let size := Bytes.minimalBE length
    UInt8.ofNat (base + 55 + size.length) :: size

def encodeString : Bytes → Bytes
  | [byte] => if byte < 0x80 then [byte] else [0x81, byte]
  | bytes => tag 0x80 bytes.length ++ bytes

def encodeList (strings : List Bytes) : Bytes :=
  let payload := strings.flatMap encodeString
  tag 0xc0 payload.length ++ payload

/-- The first `length` bytes and the rest, if there are as many. -/
def splitAt? (length : Nat) (bytes : Bytes) : Option (Bytes × Bytes) :=
  if length ≤ bytes.length then some (bytes.take length, bytes.drop length) else none

/-- A payload whose length is written in the next `count` bytes. -/
def splitLong? (count : Nat) (bytes : Bytes) : Option (Bytes × Bytes) := do
  let (size, rest) ← splitAt? count bytes
  if size.head? = some 0 then none
  else
    let length := Bytes.toNatBE size
    if length < 56 then none else splitAt? length rest

/-- The first string and the bytes after it. -/
def readString? : Bytes → Option (Bytes × Bytes)
  | [] => none
  | byte :: rest =>
      let b := byte.toNat
      if b < 0x80 then some ([byte], rest)
      else if b < 0xb8 then
        match splitAt? (b - 0x80) rest with
        | some ([single], after) => if single < 0x80 then none else some ([single], after)
        | other => other
      else if b < 0xc0 then splitLong? (b - 0xb7) rest
      else none

/-- The payload of the first list and the bytes after it. -/
def readPayload? : Bytes → Option (Bytes × Bytes)
  | [] => none
  | byte :: rest =>
      let b := byte.toNat
      if b < 0xc0 then none
      else if b < 0xf8 then splitAt? (b - 0xc0) rest
      else splitLong? (b - 0xf7) rest

/-- All strings of a payload, of at most `count` of them. -/
def readStrings? : (count : Nat) → Bytes → Option (List Bytes)
  | _, [] => some []
  | 0, _ => none
  | count + 1, bytes => do
      let (first, rest) ← readString? bytes
      let strings ← readStrings? count rest
      some (first :: strings)

def decodeList? (bytes : Bytes) : Option (List Bytes × Bytes) := do
  let (payload, rest) ← readPayload? bytes
  let strings ← readStrings? payload.length payload
  some (strings, rest)

/-- A number of at most `bits` bits in its shortest form. -/
def decodeNat? (bits : Nat) (string : Bytes) : Option Nat :=
  if string.head? = some 0 ∨ bits / 8 < string.length then none
  else some (Bytes.toNatBE string)

end Notary.Rlp
