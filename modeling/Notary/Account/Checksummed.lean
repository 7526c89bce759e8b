import Notary.Hash.Keccak
import Notary.Text.Hex

namespace Notary

/-!
The text of an address: in lower case, or with the letters whose digest digit is at least eight
raised to upper case.
-/

def Hash.text (hash : Hash) : String :=
  "0x" ++ Hex.encode hash.toBytes

namespace Address

def lowerText (address : Address) : String :=
  "0x" ++ Hex.encode address.toBytes

def digits (bytes : Bytes) : List Nat :=
  bytes.flatMap fun byte => [byte.toNat / 16, byte.toNat % 16]

def checksummedText (address : Address) : String :=
  let plain := Hex.encode address.toBytes
  let guide := digits (Keccak.hash (Bytes.ofText plain)).toBytes
  let raised := plain.toList.zipWith (fun c d => if 8 ≤ d then c.toUpper else c) guide
  "0x" ++ String.ofList raised

/-- Forty hexadecimal digits of either case, after an optional `0x` or `0X`. -/
def parse (text : String) : Except Hex.Problem Address :=
  (Hex.decodeExactly 20 text.toList).map ofBytes

end Address

end Notary
