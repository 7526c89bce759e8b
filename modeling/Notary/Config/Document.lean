import Notary.Config.Validation
import Notary.Number.Checked
import Notary.Toml.Document

namespace Notary.Config

/-!
Configurations as documents. A field that is present replaces the default, and a value of the wrong
type or out of range makes the whole document invalid; keys that name no field are ignored. A
section may also be written as an array of its fields in order, or as a date, which reads as a table
whose only key names no field.
-/

/-- Where the value of a field comes from: a key of a table, or a place of an array. -/
inductive Section where
  | table (entries : TomlTable)
  | array (items : List Toml)

def Section.ofToml? : Toml → Option Section
  | .table _ entries => some (.table entries)
  | .tables elements => some (.array (elements.map (.table .header)))
  | .array items => some (.array items)
  | .datetime => some (.table [])
  | _ => none

/-- The value at a key, which stands at a given place of the fields. -/
def Section.get? (source : Section) (place : Nat) (key : String) : Option Toml :=
  match source with
  | .table entries => entries.lookup key
  | .array items => items[place]?

/-- A field's value: the default where it is absent, `none` where it is of the wrong type. -/
def Section.field {α : Type} (source : Section) (place : Nat) (key : String)
    (read : Toml → Option α) (default : α) : Option α :=
  match source.get? place key with
  | none => some default
  | some value => read value

def readText : Toml → Option String
  | .string text => some text
  | _ => none

def readFlag : Toml → Option Bool
  | .boolean value => some value
  | _ => none

/-- A natural number of at most `bits` bits. -/
def readWord (bits : Nat) : Toml → Option Nat
  | .integer value =>
      if 0 ≤ value ∧ value.toNat < Checked.limit bits then some value.toNat else none
  | _ => none

/-- A floating-point number; an integer gives the nearest one. -/
def readNumber : Toml → Option Binary64
  | .float value => some value
  | .integer value => some (Binary64.ofFraction (value < 0) value.natAbs 1)
  | _ => none

def readTexts : Toml → Option (List String)
  | .array items => items.mapM readText
  | _ => none

def isHollow : Toml → Bool
  | .array items => items.isEmpty
  | .table _ entries => entries.isEmpty
  | .tables elements => elements.isEmpty
  | _ => false

/-- A mode by its name; a table with the name as its only key and nothing under it also names it. -/
def readMode : Toml → Option FinalityMode
  | .string text => FinalityMode.ofLabel? text
  | .table _ [(key, value)] => if isHollow value then FinalityMode.ofLabel? key else none
  | _ => none

def Rpc.ofSection? (source : Section) : Option Rpc := do
  let base : Rpc := {}
  let failoverUrls ← source.field 0 "failover_urls" readTexts base.failoverUrls
  let chainId ← source.field 1 "chain_id" (fun value => (readWord 64 value).map some) base.chainId
  let timeoutSecs ← source.field 2 "timeout_secs" (readWord 64) base.timeoutSecs
  let verifyOnConnect ← source.field 3 "verify_on_connect" readFlag base.verifyOnConnect
  some { failoverUrls, chainId, timeoutSecs, verifyOnConnect }

def Submission.ofSection? (source : Section) : Option Submission := do
  let base : Submission := {}
  let sinkAddress ←
    source.field 0 "sink_address" (fun value => (readText value).map some) base.sinkAddress
  let gasPriceMultiplier ← source.field 1 "gas_price_multiplier" readNumber base.gasPriceMultiplier
  let maxGasPriceGwei ← source.field 2 "max_gas_price_gwei" (readWord 64) base.maxGasPriceGwei
  let mortalityBlocks ←
    source.field 3 "mortality_blocks" (fun value => (readWord 64 value).map some)
      base.mortalityBlocks
  some { sinkAddress, gasPriceMultiplier, maxGasPriceGwei, mortalityBlocks }

def Finality.ofSection? (source : Section) : Option Finality := do
  let base : Finality := {}
  let mode ← source.field 0 "mode" readMode base.mode
  let confirmationBlocks ←
    source.field 1 "confirmation_blocks" (readWord 32) base.confirmationBlocks
  let pollIntervalMs ← source.field 2 "poll_interval_ms" (readWord 64) base.pollIntervalMs
  let timeoutSecs ← source.field 3 "timeout_secs" (readWord 64) base.timeoutSecs
  let maxRpcFailures ← source.field 4 "max_rpc_failures" (readWord 32) base.maxRpcFailures
  let backoffBaseMs ← source.field 5 "backoff_base_ms" (readWord 64) base.backoffBaseMs
  let backoffMaxMs ← source.field 6 "backoff_max_ms" (readWord 64) base.backoffMaxMs
  some
    { mode, confirmationBlocks, pollIntervalMs, timeoutSecs, maxRpcFailures, backoffBaseMs,
      backoffMaxMs }

def Workers.ofSection? (source : Section) : Option Workers := do
  let base : Workers := {}
  let workerThreads ← source.field 0 "worker_threads" (readWord 64) base.workerThreads
  some { workerThreads }

def Observability.ofSection? (source : Section) : Option Observability := do
  let base : Observability := {}
  let logLevel ← source.field 0 "log_level" readText base.logLevel
  let metricsAddress ←
    source.field 1 "metrics_address" (fun value => (readText value).map some) base.metricsAddress
  some { logLevel, metricsAddress }

/-- A section's settings: the default where the section is absent. -/
def sectionOf {α : Type} (table : TomlTable) (key : String) (read : Section → Option α)
    (default : α) : Option α :=
  match table.lookup key with
  | none => some default
  | some value => (Section.ofToml? value).bind read

def ofTable? (table : TomlTable) : Option Config := do
  let rpc ← sectionOf table "rpc" Rpc.ofSection? {}
  let submission ← sectionOf table "submission" Submission.ofSection? {}
  let finality ← sectionOf table "finality" Finality.ofSection? {}
  let workers ← sectionOf table "runtime" Workers.ofSection? {}
  let observability ← sectionOf table "observability" Observability.ofSection? {}
  some { rpc, submission, finality, workers, observability }

inductive LoadError where
  | io (reason : String)
  /-- The document is malformed, or a field has a value of the wrong type or range. -/
  | malformed
  | invalid (problems : List Problem)
  deriving DecidableEq, Repr

namespace LoadError

def message : LoadError → String
  | io reason => "IO error: " ++ reason
  | malformed => "Parse error: not a configuration document"
  | invalid problems => "Validation failed: " ++ ", ".intercalate (problems.map Problem.text)

def toError (e : LoadError) : Error :=
  .config e.message

end LoadError

def parse (text : String) : Except LoadError Config :=
  match (TomlDocument.parse? text).bind ofTable? with
  | none => .error .malformed
  | some config =>
      match config.validate with
      | .error problems => .error (.invalid problems)
      | .ok () => .ok config

inductive File where
  | missing
  | content (bytes : Bytes)
  deriving DecidableEq, Repr

def load : File → Except LoadError Config
  | .missing => .error (.io "No such file or directory (os error 2)")
  | .content bytes =>
      match String.fromUTF8? ⟨bytes.toArray⟩ with
      | none => .error (.io "stream did not contain valid UTF-8")
      | some text => parse text

/-- The configuration of the file that the environment names; the defaults where it names none. -/
def loadNamed : Option File → Except LoadError Config
  | none => .ok {}
  | some file => load file

end Notary.Config
