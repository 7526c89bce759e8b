import Notary.Error
import Notary.Submission

namespace Notary

/-!
What a ledger can be asked, and what a ledger is to its callers: something with a state that takes a
call now and answers it now or later.
-/

inductive Method where
  | chainId
  | blockNumber
  | finalizedBlockNumber
  | blockHash
  | pendingNonce
  | gasPrice
  | sendRaw
  | inclusion
  deriving DecidableEq, Repr, Inhabited

def Method.all : List Method :=
  [chainId, blockNumber, finalizedBlockNumber, blockHash, pendingNonce, gasPrice, sendRaw,
    inclusion]

/-- The place of a method in the list of all. -/
def Method.index : Method → Nat
  | chainId => 0
  | blockNumber => 1
  | finalizedBlockNumber => 2
  | blockHash => 3
  | pendingNonce => 4
  | gasPrice => 5
  | sendRaw => 6
  | inclusion => 7

def Method.name : Method → String
  | chainId => "chain_id"
  | blockNumber => "block_number"
  | finalizedBlockNumber => "finalized_block_number"
  | blockHash => "block_hash"
  | pendingNonce => "pending_nonce"
  | gasPrice => "gas_price"
  | sendRaw => "send_raw_transaction"
  | inclusion => "inclusion"

def Method.Answer : Method → Type
  | chainId => Nat
  | blockNumber => Nat
  | finalizedBlockNumber => Option Nat
  | blockHash => Option Hash
  | pendingNonce => Nat
  | gasPrice => Nat
  | sendRaw => Hash
  | inclusion => Option InclusionReport

inductive Call where
  | chainId
  | blockNumber
  /-- The height of the latest finalized block, if there is one. -/
  | finalizedBlockNumber
  /-- The canonical hash at a height, if there is a block. -/
  | blockHash (number : Nat)
  /-- The nonce of an account's next transaction, those in the pool counted. -/
  | pendingNonce (account : Address)
  /-- The gas price, in wei. -/
  | gasPrice
  /-- Takes a signed transaction into the pool; the answer is its hash. -/
  | sendRaw (raw : Bytes)
  /-- Where a transaction was included, if it was. -/
  | inclusion (hash : Hash)
  deriving DecidableEq, Repr, Inhabited

def Call.method : Call → Method
  | chainId => .chainId
  | blockNumber => .blockNumber
  | finalizedBlockNumber => .finalizedBlockNumber
  | blockHash _ => .blockHash
  | pendingNonce _ => .pendingNonce
  | gasPrice => .gasPrice
  | sendRaw _ => .sendRaw
  | inclusion _ => .inclusion

/-- A call as logs show it; bytes that are sent are shown by their digest. -/
def Call.text (call : Call) : String :=
  match call with
  | blockHash number => call.method.name ++ " " ++ toString number
  | pendingNonce account => call.method.name ++ " " ++ account.checksummedText
  | sendRaw raw => call.method.name ++ " " ++ Hex.encode (Keccak.hash raw).toBytes
  | inclusion hash => call.method.name ++ " " ++ Hex.encode hash.toBytes
  | _ => call.method.name

abbrev Call.Answer (call : Call) : Type := call.method.Answer

abbrev Call.Reply (call : Call) : Type := Except Fault call.Answer

/-- A piece of work that has started: the state now, the time until it ends in milliseconds, and
what it does then. -/
structure Started (σ ρ : Type) where
  state : σ
  delay : Nat
  finish : σ → ρ × σ

def Started.now {σ ρ : Type} (state : σ) (finish : σ → ρ × σ) : Started σ ρ :=
  ⟨state, 0, finish⟩

/-- How numbers fall out that are drawn in a state, up to a given one. -/
abbrev Chance (σ : Type) := σ → (most : Nat) → Fin (most + 1)

/-- Every number falls out in the middle. -/
def Chance.middle {σ : Type} : Chance σ :=
  fun _ most => ⟨most / 2, by omega⟩

/-- Chance comes from outside as replies do, and so it counts to the ledger. -/
structure Ledger (σ : Type) where
  start : (call : Call) → σ → Started σ call.Reply
  chance : Chance σ

namespace Ledger

variable {σ : Type}

def ofAnswers (answer : (call : Call) → σ → call.Reply × σ) (chance : Chance σ) : Ledger σ :=
  ⟨fun call state => .now state (answer call), chance⟩

def ask (ledger : Ledger σ) (call : Call) (state : σ) : call.Reply × σ :=
  let started := ledger.start call state
  started.finish started.state

end Ledger

/-!
The reasons that nodes give when they turn a transaction away. Some of them say that the transaction
is in the pool already, which is as good as being accepted.
-/

namespace Search

def occursIn (pattern : List Char) : List Char → Bool
  | [] => pattern.isEmpty
  | c :: rest => pattern.isPrefixOf (c :: rest) || occursIn pattern rest

/-- The text with its ASCII letters in lower case. -/
def lower (text : String) : List Char :=
  text.toList.map Char.toLower

/-- Whether a phrase in lower case stands somewhere in the text, in any letter case. -/
def mentions (text phrase : String) : Bool :=
  occursIn phrase.toList (lower text)

end Search

namespace Rejection

def alreadyKnownPhrases : List String :=
  ["already known", "known transaction", "already imported", "already in mempool"]

def isAlreadyKnown (reason : String) : Bool :=
  alreadyKnownPhrases.any (Search.mentions reason)

end Rejection

end Notary
