import Notary.Ledger.Call

namespace Notary

/-!
A ledger in memory. Every look at its head, its finalized head or an inclusion mines one block, so a
caller that keeps looking always makes progress. The transactions that wait are included in the next
block, in the order in which they were sent. How transactions of the newer kinds are read is left open.
-/

structure BroadcastTransaction where
  hash : Hash
  nonce : Nat
  appId : Nat
  payload : Bytes
  recipient : Option Address
  deriving DecidableEq, Repr, Inhabited

structure Chain where
  head : Nat
  /-- How far the finalized head trails the head. -/
  lag : Nat
  gasPrice : Nat
  pending : List Hash
  included : List (Hash × InclusionReport)
  broadcasts : List BroadcastTransaction
  /-- Blocks that were replaced on the canonical chain. -/
  orphaned : List Nat
  /-- Why transactions are turned away, while they are. -/
  rejection : Option String
  reverting : Bool
  dropping : Bool
  /-- How many lookups of inclusions are still to fail. -/
  failingPolls : Nat
  unreachable : Bool
  deriving DecidableEq, Repr, Inhabited

namespace Chain

def ownChainId : Nat := 31337

def withLag (lag : Nat) : Chain where
  head := 0
  lag := lag
  gasPrice := 1000000000
  pending := []
  included := []
  broadcasts := []
  orphaned := []
  rejection := none
  reverting := false
  dropping := false
  failingPolls := 0
  unreachable := false

def fresh : Chain := withLag 2

/-- The hash that a block had when it was mined. -/
def minedHash (number : Nat) : Hash :=
  Keccak.hash (Bytes.ofNatBE 8 number)

/-- The hash of the block that replaced a block. -/
def replacedHash (number : Nat) : Hash :=
  Keccak.hash (minedHash number).toBytes

/-- The reports on transactions that a block includes, from a given index on. -/
def reports (number : Nat) (success : Bool) :
    (index : Nat) → List Hash → List (Hash × InclusionReport)
  | _, [] => []
  | index, hash :: rest =>
      (hash, ⟨number, minedHash number, index, hash, success⟩)
        :: reports number success (index + 1) rest

def mine (chain : Chain) : Chain :=
  let number := chain.head + 1
  { chain with
    head := number
    pending := []
    included := reports number (!chain.reverting) 0 chain.pending ++ chain.included }

def canonicalHash (chain : Chain) (number : Nat) : Option Hash :=
  if chain.head < number then none
  else if chain.orphaned.contains number then some (replacedHash number)
  else some (minedHash number)

/-- The height of the finalized head, once the chain is long enough. -/
def finalizedHead (chain : Chain) : Option Nat :=
  if chain.lag ≤ chain.head then some (chain.head - chain.lag) else none

def failure {α : Type} (e : Error) : Except Fault α :=
  .error (.failure e)

/-- What a ledger in memory takes from elsewhere: the reading of transactions of the newer kinds, and
what falls out by chance. -/
class Surroundings where
  typed? : Bytes → Option Envelope
  chance : Chance Chain

/-- Transactions of the newer kinds are unknown. -/
instance (priority := low) Surroundings.plain : Surroundings :=
  ⟨fun _ => none, .middle⟩

variable [Surroundings]

/-- Takes a transaction into the pool. Its signature is not checked. -/
def accept (chain : Chain) (raw : Bytes) : Except Error Hash × Chain :=
  match chain.rejection with
  | some reason => (.error (.broadcast reason), chain)
  | none =>
      match Envelope.decode? Surroundings.typed? raw with
      | none => (.error (.broadcast "malformed transaction: not a signed transaction"), chain)
      | some tx =>
          let hash := Keccak.hash raw
          if chain.broadcasts.any (·.hash = hash) then
            (.error (.broadcast "already known"), chain)
          else
            match AppData.decode? tx.data with
            | none => (.error (.broadcast "calldata lacks an application id"), chain)
            | some (appId, payload) =>
                let read : BroadcastTransaction := ⟨hash, tx.nonce, appId, payload, tx.recipient⟩
                (.ok hash,
                  { chain with
                    broadcasts := chain.broadcasts ++ [read]
                    pending := if chain.dropping then chain.pending else chain.pending ++ [hash] })

/-- Looks up an inclusion: an injected failure comes first and mines nothing. -/
def lookUp (chain : Chain) (hash : Hash) : Except Error (Option InclusionReport) × Chain :=
  if 0 < chain.failingPolls then
    (.error (.rpc "injected poll failure"), { chain with failingPolls := chain.failingPolls - 1 })
  else (.ok (chain.mine.included.lookup hash), chain.mine)

def answerReached (chain : Chain) : (call : Call) → Except Error call.Answer × Chain
  | .chainId => (.ok ownChainId, chain)
  | .blockNumber => (.ok chain.mine.head, chain.mine)
  | .finalizedBlockNumber => (.ok chain.mine.finalizedHead, chain.mine)
  | .blockHash number => (.ok (chain.canonicalHash number), chain)
  | .pendingNonce _ => (.ok (0 : Nat), chain)
  | .gasPrice => (.ok chain.gasPrice, chain)
  | .sendRaw raw => chain.accept raw
  | .inclusion hash => chain.lookUp hash

def answer (call : Call) (chain : Chain) : call.Reply × Chain :=
  if chain.unreachable then (failure (.rpc "connection refused"), chain)
  else
    match chain.answerReached call with
    | (.ok value, next) => (.ok value, next)
    | (.error e, next) => (failure e, next)

def ledger : Ledger Chain :=
  .ofAnswers answer Surroundings.chance

inductive Control where
  | reject (reason : Option String)
  | revert (on : Bool)
  | drop (on : Bool)
  | unreachable (on : Bool)
  | failPolls (count : Nat)
  | setGasPrice (price : Nat)
  /-- Replaces a block on the canonical chain, now or once it is mined. -/
  | reorg (number : Nat)
  deriving DecidableEq, Repr

def control (chain : Chain) : Control → Chain
  | .reject reason => { chain with rejection := reason }
  | .revert on => { chain with reverting := on }
  | .drop on => { chain with dropping := on }
  | .unreachable on => { chain with unreachable := on }
  | .failPolls count => { chain with failingPolls := count }
  | .setGasPrice price => { chain with gasPrice := price }
  | .reorg number => { chain with orphaned := number :: chain.orphaned }

end Chain

end Notary
