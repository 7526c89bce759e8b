import Notary.Config.Basic
import Notary.Program

namespace Notary

/-!
The tracker: for which chain transactions are made, where they are sent and what may be paid for
them, and when a block counts as final.
-/

structure Tracker where
  chainId : Nat
  /-- Where data is sent; without it, each signer sends to itself. -/
  sink : Option Address
  submission : Config.Submission
  finality : Config.Finality
  deriving DecidableEq, Repr, Inhabited

namespace Tracker

def readSink : Option String → Except Error (Option Address)
  | none => .ok none
  | some text =>
      match Address.parse text with
      | .ok sink => .ok (some sink)
      | .error problem =>
          .error (.config ("Invalid sink address '" ++ text ++ "': " ++ problem.message))

def ofConfig (chainId : Nat) (config : Config) : Except Error Tracker := do
  let sink ← readSink config.submission.sinkAddress
  .ok ⟨chainId, sink, config.submission, config.finality⟩

def weiPerGwei : Nat := 1_000_000_000

/-- The price to pay for a unit of gas. The price that the ledger reports is held against the cap,
and then multiplied. -/
def offeredPrice (tracker : Tracker) (reported : Nat) : Except Error Nat :=
  let cap := tracker.submission.maxGasPriceGwei
  if cap < reported / weiPerGwei then
    .error (.broadcast ("gas price " ++ toString (reported / weiPerGwei) ++ " gwei exceeds cap of "
      ++ toString cap ++ " gwei"))
  else .ok (((Binary64.ofNat reported).mul tracker.submission.gasPriceMultiplier).toWord 128)

def recipientFor (tracker : Tracker) (sender : Address) : Address :=
  tracker.sink.getD sender

end Tracker

end Notary
