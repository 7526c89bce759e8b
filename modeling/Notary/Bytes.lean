namespace Notary

/-!
Byte strings, and numbers written in them with the most or the least significant byte first.
-/

abbrev Bytes := List UInt8

namespace Bytes

/-- The low `count` bytes of `value`, most significant first. -/
def ofNatBE : (count value : Nat) → Bytes
  | 0, _ => []
  | count + 1, value => UInt8.ofNat (value >>> (8 * count)) :: ofNatBE count value

/-- The low `count` bytes of `value`, least significant first. -/
def ofNatLE : (count value : Nat) → Bytes
  | 0, _ => []
  | count + 1, value => UInt8.ofNat value :: ofNatLE count (value / 256)

/-- The number the bytes write, most significant first. -/
def toNatBE (bytes : Bytes) : Nat :=
  bytes.foldl (fun value byte => value * 256 + byte.toNat) 0

/-- The fewest bytes that write `value`, most significant first; none for zero. -/
def minimalBE (value : Nat) : Bytes :=
  if value = 0 then [] else minimalBE (value / 256) ++ [UInt8.ofNat value]
termination_by value

theorem length_ofNatBE (count value : Nat) : (ofNatBE count value).length = count := by
  induction count with
  | zero => rfl
  | succ count ih => simp [ofNatBE, ih]

theorem length_ofNatLE (count value : Nat) : (ofNatLE count value).length = count := by
  induction count generalizing value with
  | zero => rfl
  | succ count ih => simp [ofNatLE, ih]

def replicate (count : Nat) (block : Bytes) : Bytes :=
  (List.replicate count block).flatten

def ofText (text : String) : Bytes :=
  text.toUTF8.toList

end Bytes

/-- A 32-byte digest. -/
structure Hash where
  word : BitVec 256
  deriving DecidableEq, Repr, Inhabited

/-- A 20-byte account address. -/
structure Address where
  word : BitVec 160
  deriving DecidableEq, Repr, Inhabited

namespace Hash

def toBytes (hash : Hash) : Bytes :=
  Bytes.ofNatBE 32 hash.word.toNat

/-- The digest written by the last 32 of the bytes. -/
def ofBytes (bytes : Bytes) : Hash :=
  ⟨BitVec.ofNat 256 (Bytes.toNatBE bytes)⟩

def zero : Hash := ⟨0⟩

theorem length_toBytes (hash : Hash) : hash.toBytes.length = 32 :=
  Bytes.length_ofNatBE 32 _

end Hash

namespace Address

def toBytes (address : Address) : Bytes :=
  Bytes.ofNatBE 20 address.word.toNat

/-- The address written by the last 20 of the bytes. -/
def ofBytes (bytes : Bytes) : Address :=
  ⟨BitVec.ofNat 160 (Bytes.toNatBE bytes)⟩

theorem length_toBytes (address : Address) : address.toBytes.length = 20 :=
  Bytes.length_ofNatBE 20 _

end Address

end Notary
