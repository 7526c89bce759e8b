namespace Notary

/-!
What can go wrong, and the two names of each failure: a negative code for callers that can only
receive a number, and a short label for the counters.
-/

inductive Error where
  /-- The handle was never issued, is stale, or names an object of another kind. -/
  | invalidHandle (raw : Int)
  | invalidSeed (reason : String)
  | connection (reason : String)
  /-- The transaction was turned away before it reached the pool. -/
  | broadcast (reason : String)
  /-- Finality was not observed within so many seconds. -/
  | timeout (seconds : Nat)
  /-- The chain executed the transaction and rejected it. -/
  | rejected (reason : String)
  /-- The transaction did not appear within its mortality window. -/
  | notFound (transaction : String)
  /-- The submission is final and its receipt has been released since. -/
  | alreadyResolved (transaction : String)
  | allocation (reason : String)
  | notInitialized
  | alreadyInitialized
  | invalidArgument (reason : String)
  | cancelled
  | config (reason : String)
  | rpc (reason : String)
  | signing (reason : String)
  | registryFull
  | unknownRecord (address : Nat)
  /-- A breakdown contained at the boundary. -/
  | internal (reason : String)
  deriving DecidableEq, Repr, Inhabited

namespace Error

/-- The stable negative number that stands for the error where a handle is expected. -/
def code : Error → Int
  | invalidHandle _ => -1
  | invalidSeed _ => -2
  | connection _ => -3
  | broadcast _ => -4
  | timeout _ => -5
  | rejected _ => -6
  | notFound _ => -7
  | alreadyResolved _ => -8
  | allocation _ => -9
  | notInitialized => -10
  | invalidArgument _ => -11
  | cancelled => -12
  | config _ => -13
  | rpc _ => -14
  | signing _ => -15
  | registryFull => -16
  | unknownRecord _ => -17
  | alreadyInitialized => -18
  | internal _ => -99

def kind : Error → String
  | invalidHandle _ => "invalid_handle"
  | invalidSeed _ => "invalid_seed"
  | connection _ => "connection"
  | broadcast _ => "broadcast"
  | timeout _ => "timeout"
  | rejected _ => "rejected"
  | notFound _ => "not_found"
  | alreadyResolved _ => "already_resolved"
  | allocation _ => "allocation"
  | notInitialized => "not_initialized"
  | alreadyInitialized => "already_initialized"
  | invalidArgument _ => "invalid_argument"
  | cancelled => "cancelled"
  | config _ => "config"
  | rpc _ => "rpc"
  | signing _ => "signing"
  | registryFull => "registry_full"
  | unknownRecord _ => "unknown_record"
  | internal _ => "internal"

def hexadecimal (value : Nat) : String :=
  "0x" ++ String.ofList (Nat.toDigits 16 value)

def message : Error → String
  | invalidHandle raw => "invalid handle " ++ toString raw
  | invalidSeed reason => "invalid seed: " ++ reason
  | connection reason => "connection error: " ++ reason
  | broadcast reason => "broadcast failed: " ++ reason
  | timeout seconds => "finality not observed after " ++ toString seconds ++ " seconds"
  | rejected reason => "transaction rejected: " ++ reason
  | notFound transaction => "transaction " ++ transaction ++ " not found on chain"
  | alreadyResolved transaction => "submission " ++ transaction ++ " already resolved"
  | allocation reason => "record allocation failed: " ++ reason
  | notInitialized => "client not initialized"
  | alreadyInitialized => "client already initialized"
  | invalidArgument reason => "invalid argument: " ++ reason
  | cancelled => "submission cancelled"
  | config reason => "configuration error: " ++ reason
  | rpc reason => "RPC error: " ++ reason
  | signing reason => "signing failed: " ++ reason
  | registryFull => "handle registry is full"
  | unknownRecord address => "unknown record pointer " ++ hexadecimal address
  | internal reason => "internal error: " ++ reason

/-- The error of a given label, for the labels that carry a text or a number or nothing. -/
def ofKind? (kind : String) (text : String) : Option Error :=
  match kind with
  | "invalid_handle" => text.toInt?.map invalidHandle
  | "invalid_seed" => some (invalidSeed text)
  | "connection" => some (connection text)
  | "broadcast" => some (broadcast text)
  | "timeout" => text.toNat?.map timeout
  | "rejected" => some (rejected text)
  | "not_found" => some (notFound text)
  | "already_resolved" => some (alreadyResolved text)
  | "allocation" => some (allocation text)
  | "not_initialized" => some notInitialized
  | "already_initialized" => some alreadyInitialized
  | "invalid_argument" => some (invalidArgument text)
  | "cancelled" => some cancelled
  | "config" => some (config text)
  | "rpc" => some (rpc text)
  | "signing" => some (signing text)
  | "registry_full" => some registryFull
  | "unknown_record" => text.toNat?.map unknownRecord
  | "internal" => some (internal text)
  | _ => none

theorem code_neg (e : Error) : e.code < 0 := by
  cases e <;> simp [code]

end Error

/-- What ends an operation early: a reported failure, or a breakdown such as an arithmetic
overflow, which carries a text when it has one. -/
inductive Fault where
  | failure (error : Error)
  | breakdown (message : Option String)
  deriving DecidableEq, Repr, Inhabited

namespace Fault

/-- A breakdown that is contained becomes an internal error. -/
def contain : Fault → Error
  | failure e => e
  | breakdown (some message) => .internal message
  | breakdown none => .internal "panic with non-string payload"

end Fault

end Notary
