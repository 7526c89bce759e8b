import Notary.Number.Binary64

namespace Notary.Config

/-!
Settings, in five sections. Every field has a default, so that an empty configuration is complete.
-/

structure Rpc where
  /-- Endpoints to ask when the first one fails. -/
  failoverUrls : List String := []
  /-- The expected chain; without it, whatever the endpoint names is used. -/
  chainId : Option Nat := none
  timeoutSecs : Nat := 10
  /-- Whether the endpoint is asked at once, and refused if it does not answer. -/
  verifyOnConnect : Bool := true
  deriving DecidableEq, Repr, Inhabited

/-- The number 1.2. -/
def defaultMultiplier : Binary64 := ⟨0x3ff3333333333333⟩

structure Submission where
  /-- Where data is sent; without it, each signer sends to itself. -/
  sinkAddress : Option String := none
  gasPriceMultiplier : Binary64 := defaultMultiplier
  maxGasPriceGwei : Nat := 500
  /-- Blocks within which a transaction is expected to appear. -/
  mortalityBlocks : Option Nat := some 64
  deriving DecidableEq, Repr, Inhabited

/-- How a block is judged final. -/
inductive FinalityMode where
  /-- The chain's finalized head has reached the block. -/
  | finalized
  /-- A fixed number of blocks stands on the block. -/
  | confirmations
  deriving DecidableEq, Repr, Inhabited

def FinalityMode.label : FinalityMode → String
  | .finalized => "finalized"
  | .confirmations => "confirmations"

def FinalityMode.ofLabel? : String → Option FinalityMode
  | "finalized" => some .finalized
  | "confirmations" => some .confirmations
  | _ => none

structure Finality where
  mode : FinalityMode := .finalized
  confirmationBlocks : Nat := 3
  pollIntervalMs : Nat := 2000
  timeoutSecs : Nat := 600
  /-- Failures in a row that a wait survives. -/
  maxRpcFailures : Nat := 5
  backoffBaseMs : Nat := 200
  backoffMaxMs : Nat := 5000
  deriving DecidableEq, Repr, Inhabited

structure Workers where
  workerThreads : Nat := 2
  deriving DecidableEq, Repr, Inhabited

structure Observability where
  logLevel : String := "info"
  /-- Where the counters are served; without it they are not. -/
  metricsAddress : Option String := none
  deriving DecidableEq, Repr, Inhabited

end Notary.Config

namespace Notary

structure Config where
  rpc : Config.Rpc := {}
  submission : Config.Submission := {}
  finality : Config.Finality := {}
  workers : Config.Workers := {}
  observability : Config.Observability := {}
  deriving DecidableEq, Repr, Inhabited

end Notary
