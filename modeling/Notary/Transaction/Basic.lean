import Notary.Account.Signer
import Notary.Transaction.AppData
import Notary.Transaction.Rlp

namespace Notary

/-!
Transactions that carry data: their signed form as the ledger takes it, and its reading. The number
written before the two halves of the signature tells the chain and the parity.
-/

/-- What the network side decides about a transaction. -/
structure Terms where
  chainId : Nat
  nonce : Nat
  gasPrice : Nat
  gasLimit : Nat
  recipient : Address
  deriving DecidableEq, Repr

/-- A signed transaction in the form that is broadcast. -/
structure SignedTransaction where
  hash : Hash
  raw : Bytes
  sender : Address
  nonce : Nat
  appId : Nat
  deriving DecidableEq, Repr, Inhabited

/-- A transaction as it is read from its signed form. -/
structure Transaction where
  nonce : Nat
  gasPrice : Nat
  gasLimit : Nat
  /-- None where the transaction creates a contract. -/
  recipient : Option Address
  value : Nat
  data : Bytes
  deriving DecidableEq, Repr

namespace Transaction

/-- The transaction that pays nothing and carries a payload. -/
def ofPayload (appId : Nat) (payload : Bytes) (terms : Terms) : Transaction where
  nonce := terms.nonce
  gasPrice := terms.gasPrice
  gasLimit := terms.gasLimit
  recipient := some terms.recipient
  value := 0
  data := AppData.encode appId payload

/-- The six strings of the transaction, without its signature. -/
def strings (tx : Transaction) : List Bytes :=
  [Bytes.minimalBE tx.nonce, Bytes.minimalBE tx.gasPrice, Bytes.minimalBE tx.gasLimit,
    (tx.recipient.map Address.toBytes).getD [], Bytes.minimalBE tx.value, tx.data]

def signingDigest (tx : Transaction) (chainId : Nat) : Hash :=
  Keccak.hash (Rlp.encodeList (tx.strings ++ [Bytes.minimalBE chainId, [], []]))

/-- The number that tells the chain and the parity of a signature. -/
def parityMark (chainId : Nat) (odd : Bool) : Nat :=
  2 * chainId + 35 + odd.toNat

def encodeSigned (tx : Transaction) (chainId : Nat) (signature : Secp256k1.Signature) : Bytes :=
  Rlp.encodeList (tx.strings ++ [Bytes.minimalBE (parityMark chainId signature.odd),
    Bytes.minimalBE signature.r, Bytes.minimalBE signature.s])

/-- The recipient that a string of twenty bytes or none names. -/
def recipientOf? (string : Bytes) : Option (Option Address) :=
  if string.isEmpty then some none
  else if string.length = 20 then some (some (.ofBytes string))
  else none

/-- Whether a mark tells a parity; a chain that it tells must have a number of 64 bits. -/
def isParityMark (mark : Nat) : Bool :=
  mark == 27 || mark == 28 || (35 ≤ mark && (mark - 35) / 2 < Checked.limit 64)

/-- The transaction of the oldest kind, a list, at the start of the bytes. Its signature is read and not
checked. -/
def decodeSigned? (bytes : Bytes) : Option Transaction := do
  match ← Rlp.decodeList? bytes with
  | ([nonce, gasPrice, gasLimit, recipient, value, data, mark, r, s], _) =>
      let nonce ← Rlp.decodeNat? 64 nonce
      let gasPrice ← Rlp.decodeNat? 128 gasPrice
      let gasLimit ← Rlp.decodeNat? 64 gasLimit
      let recipient ← recipientOf? recipient
      let value ← Rlp.decodeNat? 256 value
      let mark ← Rlp.decodeNat? 128 mark
      let _ ← Rlp.decodeNat? 256 r
      let _ ← Rlp.decodeNat? 256 s
      if isParityMark mark then some ⟨nonce, gasPrice, gasLimit, recipient, value, data⟩ else none
  | _ => none

end Transaction

/-- What every kind of transaction tells. -/
structure Envelope where
  nonce : Nat
  recipient : Option Address
  data : Bytes
  deriving DecidableEq, Repr

namespace Envelope

def ofTransaction (tx : Transaction) : Envelope :=
  ⟨tx.nonce, tx.recipient, tx.data⟩

/-- Whether the bytes begin with the kind of a transaction, as all kinds do but the oldest one. -/
def isTyped (bytes : Bytes) : Bool :=
  bytes.head?.any (· < 0x80)

/-- The signed transaction of any kind at the start of the bytes; `typed?` reads the newer kinds. -/
def decode? (typed? : Bytes → Option Envelope) (bytes : Bytes) : Option Envelope :=
  if isTyped bytes then typed? bytes else (Transaction.decodeSigned? bytes).map ofTransaction

end Envelope

/-- The broadcast form of a transaction, if its signature could be made. -/
def Signer.seal (signer : Signer) (tx : Transaction) (appId chainId : Nat) :
    Option Secp256k1.Signature → Except Error SignedTransaction
  | none => .error (.signing "Transaction signing failed: signature error")
  | some signature =>
      let raw := tx.encodeSigned chainId signature
      .ok ⟨Keccak.hash raw, raw, signer.address, tx.nonce, appId⟩

def Signer.signPayload (signer : Signer) (payload : Bytes) (appId : Nat) (terms : Terms) :
    Except Error SignedTransaction :=
  let tx := Transaction.ofPayload appId payload terms
  signer.seal tx appId terms.chainId
    (Secp256k1.sign signer.key (tx.signingDigest terms.chainId))

end Notary
