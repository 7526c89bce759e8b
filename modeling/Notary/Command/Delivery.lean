import Notary.Command.Options
import Notary.Ledger.Chain
import Notary.Session

namespace Notary.Command

/-!
Carrying out the command: a session is opened, the payload is submitted and its receipt awaited, and
the receipt is printed.
-/

inductive Failure where
  | config (e : Config.LoadError)
  | error (e : Error)
  deriving DecidableEq, Repr

def Failure.message : Failure → String
  | config e => e.message
  | error e => e.message

structure Report where
  exitCode : Nat
  output : String
  failure : Option Failure
  deriving DecidableEq, Repr

namespace Report

def success (output : String) : Report := ⟨0, output, none⟩

def failed (failure : Failure) : Report := ⟨1, "", some failure⟩

def ofStop (namedSeed : Option String) : Stop → Report
  | .usage => ⟨2, "", none⟩
  | .help => ⟨0, helpText namedSeed, none⟩

/-- A breakdown ends the command with a status of its own. -/
def ofFault : Fault → Report
  | .failure e => failed (.error e)
  | .breakdown _ => ⟨101, "", none⟩

end Report

def plainText (record : FinalityRecord) : String :=
  "Block height:      " ++ toString record.blockHeight ++ "\n"
    ++ "Block hash:        " ++ record.blockHash.text ++ "\n"
    ++ "Transaction index: " ++ toString record.transactionIndex ++ "\n"
    ++ "Transaction hash:  " ++ record.transactionHash.text ++ "\n"

/-- The record as a JSON object, its keys in alphabetical order. -/
def jsonText (record : FinalityRecord) : String :=
  "\x7b\n"
    ++ "  \"block_hash\": \"" ++ record.blockHash.text ++ "\",\n"
    ++ "  \"block_height\": " ++ toString record.blockHeight ++ ",\n"
    ++ "  \"transaction_hash\": \"" ++ record.transactionHash.text ++ "\",\n"
    ++ "  \"transaction_index\": " ++ toString record.transactionIndex ++ "\n"
    ++ "\x7d\n"

variable {σ : Type}

/-- Submits the payload in an open session and waits for its record; the handles are released. -/
def deliver (ledger : Ledger σ) (session : Session σ) (options : Options) :
    Except Fault FinalityRecord := do
  let (signer, session) := session.initializeSigner options.seed
  let signer ← signer
  let (submission, session) :=
    session.submitData ledger signer (Bytes.ofText options.data) options.appId
  let submission ← submission
  let (receipt, session) := session.transactionReceipt ledger submission none
  let receipt ← receipt
  let record ← session.receipt receipt
  let (released, session) := session.releaseReceipt receipt
  released
  let (released, session) := session.releaseSubmission submission
  released
  (session.releaseSigner signer).1
  return record

def obtain (gateway : Gateway σ) (options : Options) (config : Config) :
    Except Fault FinalityRecord := do
  if options.offline then
    let session ← (Session.onLedger Chain.ledger config .fresh).1
    deliver Chain.ledger session options
  else
    let session ← Session.connect gateway options.endpoint config
    deliver gateway.ledger session options

/-- The configuration that the options name, or else the environment. -/
def chooseConfig (files : String → Config.File) (namedConfig : Option String) (options : Options) :
    Except Config.LoadError Config :=
  match options.config with
  | some path => Config.load (files path)
  | none => Config.loadNamed (namedConfig.map files)

def run (gateway : Gateway σ) (files : String → Config.File)
    (namedSeed namedConfig : Option String) (words : List String) : Report :=
  match parse words namedSeed with
  | .error stop => .ofStop namedSeed stop
  | .ok options =>
      match chooseConfig files namedConfig options with
      | .error e => .failed (.config e)
      | .ok config =>
          match obtain gateway options config with
          | .error fault => .ofFault fault
          | .ok record =>
              .success (if options.json then jsonText record else plainText record)

end Notary.Command
