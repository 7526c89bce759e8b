import Notary.Config.Basic
import Notary.Hash.Keccak
import Notary.Ledger.Gateway
import Notary.Metrics
import Notary.Text.Quoted
import Notary.Url.Basic

namespace Notary

/-!
A client of remote ledgers. It knows a list of providers and asks them in turn until one answers.
Transactions are passed on only after a refusal: a provider that did not answer in time may hold the
transaction already, so that it counts as sent.
-/

/-- An endpoint that the client can call: a URL with one of the two schemes it speaks. -/
def Endpoint.parse (endpoint : String) : Except Error Url :=
  match Url.parse endpoint with
  | .error problem =>
      .error (.connection ("Invalid RPC URL '" ++ endpoint ++ "': " ++ problem.message))
  | .ok url =>
      if url.scheme = "http" ∨ url.scheme = "https" then .ok url
      else
        .error (.connection
          ("Unsupported RPC scheme '" ++ url.scheme ++ "' in '" ++ endpoint ++ "'"))

inductive Outcome (α : Type) where
  | answer (value : α)
  | refusal (reason : String)
  /-- No answer came in time. -/
  | silence
  deriving Repr

structure Network (ν : Type) where
  request : (provider : Url) → (call : Call) → ν → Outcome call.Answer × ν
  chance : Chance ν := .middle

def Network.closed : Network Unit where
  request := fun provider _ state =>
    (.refusal ("error sending request for url (" ++ provider.text ++ ")"), state)

structure Client (ν : Type) where
  endpoint : String
  providers : List Url
  timeoutSecs : Nat
  network : ν
  /-- The calls that every provider failed to answer. -/
  failures : Metrics

namespace Client

variable {ν : Type}

def label : Method → String
  | .chainId => "get_chain_id"
  | .blockNumber => "get_block_number"
  | .finalizedBlockNumber => "get_finalized_block"
  | .blockHash => "get_block_by_number"
  | .pendingNonce => "get_transaction_count"
  | .gasPrice => "get_gas_price"
  | .sendRaw => "send_raw_transaction"
  | .inclusion => "get_transaction_receipt"

/-- A time in seconds; no time at all is written in the smallest unit. -/
def secondsText (seconds : Nat) : String :=
  if seconds = 0 then "0ns" else toString seconds ++ "s"

def silenceText (seconds : Nat) : String :=
  "timed out after " ++ secondsText seconds

def noProviderText : String := "no providers configured"

/-- The first answer of the providers, or what the last one said. -/
def firstAnswer (network : Network ν) (timeoutSecs : Nat) (call : Call) :
    List Url → (last : String) → ν → Except String call.Answer × ν
  | [], last, state => (.error last, state)
  | provider :: rest, _, state =>
      match network.request provider call state with
      | (.answer value, state) => (.ok value, state)
      | (.refusal reason, state) => firstAnswer network timeoutSecs call rest reason state
      | (.silence, state) =>
          firstAnswer network timeoutSecs call rest (silenceText timeoutSecs) state

inductive Broadcast where
  | taken (hash : Hash)
  /-- The pool of a provider holds the transaction already. -/
  | known
  /-- A provider was silent, and may hold the transaction. -/
  | uncertain
  /-- Every provider refused the transaction; the last one gave the reason. -/
  | refused (reason : String)
  deriving DecidableEq, Repr

/-- Sends a transaction to the providers until one of them may hold it. -/
def firstTaker (network : Network ν) (raw : Bytes) :
    List Url → (last : String) → ν → Broadcast × ν
  | [], last, state => (.refused last, state)
  | provider :: rest, _, state =>
      match network.request provider (.sendRaw raw) state with
      | (.answer (hash : Hash), state) => (.taken hash, state)
      | (.refusal reason, state) =>
          if Rejection.isAlreadyKnown reason then (.known, state)
          else firstTaker network raw rest reason state
      | (.silence, state) => (.uncertain, state)

def countFailure (client : Client ν) (method : String) : Client ν :=
  { client with failures := client.failures.increment (.ledgerFailures method) }

def read (network : Network ν) (call : Call) (client : Client ν) : call.Reply × Client ν :=
  let (found, state) :=
    firstAnswer network client.timeoutSecs call client.providers noProviderText client.network
  let client := { client with network := state }
  match found with
  | .ok value => (.ok value, client)
  | .error last =>
      let method := label call.method
      (.error (.failure (.rpc ("All providers failed to " ++ method ++ ": " ++ last))),
        client.countFailure method)

/-- Broadcasts a transaction: the hash that a provider gave it, or its own where it may be known. -/
def send (network : Network ν) (raw : Bytes) (client : Client ν) :
    Except Fault Hash × Client ν :=
  let (outcome, state) := firstTaker network raw client.providers noProviderText client.network
  let client := { client with network := state }
  match outcome with
  | .taken hash => (.ok hash, client)
  | .known => (.ok (Keccak.hash raw), client)
  | .uncertain => (.ok (Keccak.hash raw), client.countFailure "send_raw_transaction_timeout")
  | .refused reason =>
      (.error (.failure (.broadcast ("All providers rejected transaction: " ++ reason))),
        client.countFailure (label .sendRaw))

def answer (network : Network ν) : (call : Call) → Client ν → call.Reply × Client ν
  | .sendRaw raw, client => client.send network raw
  | .chainId, client => client.read network .chainId
  | .blockNumber, client => client.read network .blockNumber
  | .finalizedBlockNumber, client => client.read network .finalizedBlockNumber
  | .blockHash number, client => client.read network (.blockHash number)
  | .pendingNonce account, client => client.read network (.pendingNonce account)
  | .gasPrice, client => client.read network .gasPrice
  | .inclusion hash, client => client.read network (.inclusion hash)

def ledger (network : Network ν) : Ledger (Client ν) :=
  .ofAnswers (answer network) fun client => network.chance client.network

/-- Endpoints to fall back on that cannot be used are passed over. -/
def usable (endpoints : List String) : List Url :=
  endpoints.filterMap fun endpoint => (Endpoint.parse endpoint).toOption

/-- Asks a new client for its chain, which must be the expected one where one is expected. -/
def verify (network : Network ν) (expected : Option Nat) (client : Client ν) :
    Except Fault (Client ν) :=
  match client.answer network .chainId with
  | (.error (.failure e), _) =>
      .error (.failure
        (.connection ("Endpoint " ++ client.endpoint ++ " unreachable: " ++ e.message)))
  | (.error fault, _) => .error fault
  | (.ok (chainId : Nat), client) =>
      match expected with
      | none => .ok client
      | some expected =>
          if chainId = expected then .ok client
          else
            .error (.failure (.connection ("Chain ID mismatch: expected " ++ toString expected
              ++ ", got " ++ toString chainId)))

def connect (network : Network ν) (state : ν) (endpoint : String) (rpc : Config.Rpc) :
    Except Fault (Client ν) :=
  match Endpoint.parse endpoint with
  | .error e => .error (.failure e)
  | .ok provider =>
      let client : Client ν :=
        { endpoint, providers := provider :: usable rpc.failoverUrls, timeoutSecs := rpc.timeoutSecs
          network := state, failures := .empty }
      if rpc.verifyOnConnect then client.verify network rpc.chainId else .ok client

def gateway (network : Network ν) (state : ν) : Gateway (Client ν) :=
  ⟨ledger network, connect network state⟩

def debugText (client : Client ν) : String :=
  "LedgerClient \x7b rpc_url: " ++ Quoted.encode client.endpoint
    ++ ", providers: " ++ toString client.providers.length
    ++ ", timeout: " ++ secondsText client.timeoutSecs ++ " \x7d"

end Client

end Notary
