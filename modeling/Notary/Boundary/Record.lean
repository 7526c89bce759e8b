import Notary.Metrics
import Notary.Submission

namespace Notary

/-!
Records of fixed layout that callers own. A record is a snapshot of a receipt, 76 bytes long, and
the ledger of records knows which addresses are still owned by a caller.
-/

/-- A receipt as it lies in memory: positions and handle in signed words of 32 bits. -/
structure BoundaryRecord where
  blockHeight : Nat
  blockHash : Hash
  transactionIndex : Nat
  transactionHash : Hash
  handle : Handle
  deriving DecidableEq, Repr, Inhabited

namespace BoundaryRecord

/-- The first number beyond a signed word of 32 bits. -/
def limit : Nat := 0x8000_0000

/-- The snapshot of a record, if its positions fit. -/
def ofRecord (handle : Handle) (record : FinalityRecord) : Except Error BoundaryRecord :=
  if limit ≤ record.blockHeight then
    .error (.allocation ("block height " ++ toString record.blockHeight ++ " exceeds i32"))
  else if limit ≤ record.transactionIndex then
    .error (.allocation
      ("transaction index " ++ toString record.transactionIndex ++ " exceeds i32"))
  else
    .ok ⟨record.blockHeight, record.blockHash, record.transactionIndex, record.transactionHash,
      handle⟩

/-- A signed word, least significant byte first. -/
def word (value : Int) : Bytes :=
  Bytes.ofNatLE 4 (value % 0x1_0000_0000).toNat

def toBytes (record : BoundaryRecord) : Bytes :=
  word record.blockHeight ++ record.blockHash.toBytes ++ word record.transactionIndex
    ++ record.transactionHash.toBytes ++ word record.handle.raw

def size : Nat := 76

theorem length_toBytes (record : BoundaryRecord) : record.toBytes.length = size := by
  simp [toBytes, word, size, Bytes.length_ofNatLE, Hash.length_toBytes]

end BoundaryRecord

/-- The records that callers own, by address; zero is the null address. -/
structure RecordLedger where
  entries : List (Nat × BoundaryRecord)
  allocated : Nat
  gauges : Metrics
  deriving Repr, Inhabited

namespace RecordLedger

def empty : RecordLedger :=
  ⟨[], 0, .empty⟩

def outstanding (ledger : RecordLedger) : Nat :=
  ledger.entries.length

def isOutstanding (ledger : RecordLedger) (address : Nat) : Bool :=
  (ledger.entries.lookup address).isSome

def recount (ledger : RecordLedger) : RecordLedger :=
  { ledger with gauges := ledger.gauges.set .outstandingRecords ledger.outstanding }

/-- Allocates a record at an address that no record stands at. -/
def materializeAt (ledger : RecordLedger) (address : Nat) (handle : Handle)
    (record : FinalityRecord) : Except Error Nat × RecordLedger :=
  match BoundaryRecord.ofRecord handle record with
  | .error e => (.error e, ledger)
  | .ok snapshot =>
      (.ok address, { ledger with entries := (address, snapshot) :: ledger.entries }.recount)

/-- The address of the allocation of a given number. Addresses are not used again. -/
def addressOf (number : Nat) : Nat :=
  BoundaryRecord.size * (number + 1)

def materialize (ledger : RecordLedger) (handle : Handle) (record : FinalityRecord) :
    Except Error Nat × RecordLedger :=
  match ledger.materializeAt (addressOf ledger.allocated) handle record with
  | (.error e, _) => (.error e, ledger)
  | (.ok address, next) => (.ok address, { next with allocated := ledger.allocated + 1 })

def read (ledger : RecordLedger) (address : Nat) : Except Error BoundaryRecord :=
  if address = 0 then .error (.invalidArgument "receipt pointer is null")
  else
    match ledger.entries.lookup address with
    | none => .error (.unknownRecord address)
    | some record => .ok record

/-- Frees the record at an address. Any other address is named in the error and left alone. -/
def release (ledger : RecordLedger) (address : Nat) : Except Error Unit × RecordLedger :=
  match ledger.read address with
  | .error e => (.error e, ledger)
  | .ok _ =>
      (.ok (), { ledger with entries := ledger.entries.filter (·.1 != address) }.recount)

end RecordLedger

end Notary
