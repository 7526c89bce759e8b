import Notary.Bytes
import Notary.Number.Checked

namespace Notary.AppData

/-!
The data of a transaction: the number of the application the payload is filed under, in four bytes,
and then the payload.
-/

/-- Bytes of the application's number. -/
def idLength : Nat := 4

def encode (appId : Nat) (payload : Bytes) : Bytes :=
  Bytes.ofNatBE idLength appId ++ payload

def decode? (data : Bytes) : Option (Nat × Bytes) :=
  if data.length < idLength then none
  else some (Bytes.toNatBE (data.take idLength), data.drop idLength)

def baseGas : Nat := 21000

/-- Gas for one byte of data. -/
def byteGas : Nat := 16

/-- The gas that a transaction with so many bytes of data may use. -/
def gasLimit (length : Nat) : Except Fault Nat := do
  let dataGas ← Checked.mul 64 length byteGas
  Checked.add 64 baseGas dataGas

end Notary.AppData
