import Notary.Curve.Secp256k1
import Notary.Hash.Sha512

namespace Notary.Derivation

open Secp256k1 (PrivateKey)

/-!
Trees of keys: each key with its chain code determines its numbered children. A child numbered from
`hardened` on is derived from the secret itself, any other one from the point.
-/

structure Node where
  key : PrivateKey
  chainCode : Bytes

def hardened : Nat := 0x8000_0000

def root? (secret : Bytes) : Option Node := do
  let digest := Sha512.hmac (Bytes.ofText "Bitcoin seed") secret
  let key ← PrivateKey.ofNat? (Bytes.toNatBE (digest.take 32))
  some ⟨key, digest.drop 32⟩

def Node.child? (node : Node) (number : Nat) : Option Node := do
  let material :=
    if hardened ≤ number then 0x00 :: node.key.toBytes else node.key.publicKey.compressed
  let digest := Sha512.hmac node.chainCode (material ++ Bytes.ofNatBE 4 number)
  let tweak := Bytes.toNatBE (digest.take 32)
  if Secp256k1.order ≤ tweak then none
  else
    let key ← PrivateKey.ofNat? ((tweak + node.key.scalar) % Secp256k1.order)
    some ⟨key, digest.drop 32⟩

def Node.descendant? (node : Node) : List Nat → Option Node
  | [] => some node
  | number :: rest => do (← node.child? number).descendant? rest

/-- The path of a numbered account. A number from `hardened` on is used as it is. -/
def accountPath (account : Nat) : List Nat :=
  [hardened + 44, hardened + 60, hardened, 0, account]

def accountKey? (secret : Bytes) (account : Nat) : Option PrivateKey := do
  let node ← (← root? secret).descendant? (accountPath account)
  some node.key

end Notary.Derivation
