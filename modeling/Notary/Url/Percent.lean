import Notary.Text.Hex

namespace Notary.Percent

/-!
Percent escapes in the parts of a URL. Each part has its own set of characters that must be escaped;
control characters and everything beyond ASCII are escaped in all of them.
-/

/-- The byte with its two digits in upper case. -/
def escape (byte : UInt8) : List Char :=
  ['%', (Hex.digit (byte.toNat / 16)).toUpper, (Hex.digit (byte.toNat % 16)).toUpper]

def isControl (byte : UInt8) : Bool :=
  byte < 0x20 || 0x7e < byte

def fragmentSet : List Char := [' ', '"', '<', '>', Char.ofNat 0x60]

def pathSet : List Char := fragmentSet ++ ['#', '?', '\x7b', '\x7d']

def userinfoSet : List Char :=
  pathSet ++ ['/', ':', ';', '=', '@', '[', Char.ofNat 0x5c, ']', '^', '|']

def querySet : List Char := [' ', '"', '#', '<', '>', Char.ofNat 0x27]

/-- Escapes a text byte by byte. -/
def encode (set : List Char) (text : List Char) : List Char :=
  (Bytes.ofText (String.ofList text)).flatMap fun byte =>
    if isControl byte || set.contains (Char.ofNat byte.toNat) then escape byte
    else [Char.ofNat byte.toNat]

/-- The bytes of a text, each well-formed escape giving its byte. -/
def decodeBytes : Bytes → Bytes
  | 0x25 :: high :: low :: rest =>
      match Hex.value? (Char.ofNat high.toNat), Hex.value? (Char.ofNat low.toNat) with
      | some h, some l => UInt8.ofNat (16 * h + l) :: decodeBytes rest
      | _, _ => 0x25 :: decodeBytes (high :: low :: rest)
  | byte :: rest => byte :: decodeBytes rest
  | [] => []
termination_by bytes => bytes.length

def decode (text : List Char) : Bytes :=
  decodeBytes (Bytes.ofText (String.ofList text))

end Notary.Percent
