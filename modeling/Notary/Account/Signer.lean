import Notary.Account.Checksummed
import Notary.Curve.Secp256k1
import Notary.Error

namespace Notary

open Secp256k1 (PrivateKey)

/-!
Signing identities: a private key and the address of its point. Signing is deterministic, so equal
keys sign equal messages equally.
-/

def Address.ofKey (key : PrivateKey) : Address :=
  .ofBytes ((Keccak.hash key.publicKey.toBytes).toBytes.drop 12)

structure Signer where
  key : PrivateKey
  address : Address
  address_eq : address = Address.ofKey key

namespace Signer

def ofKey (key : PrivateKey) : Signer :=
  ⟨key, Address.ofKey key, rfl⟩

instance : Inhabited Signer := ⟨ofKey default⟩

/-- A signer shows its address and nothing else. -/
def debugText (signer : Signer) : String :=
  "Signer \x7b address: " ++ signer.address.lowerText ++ " \x7d"

/-- What is signed in place of a message: a marker, the message's length and the message. -/
def messageDigest (message : Bytes) : Hash :=
  Keccak.hash
    (0x19 :: Bytes.ofText "Ethereum Signed Message:\n"
      ++ Bytes.ofText (toString message.length) ++ message)

/-- The signature of a message in 65 bytes, the last one telling the parity. -/
def signMessage (signer : Signer) (message : Bytes) : Except Error Bytes :=
  match Secp256k1.sign signer.key (messageDigest message) with
  | none => .error (.signing "Message signing failed: signature error")
  | some signature =>
      .ok (Bytes.ofNatBE 32 signature.r ++ Bytes.ofNatBE 32 signature.s
        ++ [if signature.odd then 28 else 27])

end Signer

end Notary
