import Notary.Bytes

namespace Notary.Hex

/-!
Hexadecimal text: two digits a byte, lower case when written, either case when read. Reading a text
of fixed size names the first of three faults: an odd number of digits, a wrong length, and a
character that is no digit.
-/

def digit (value : Nat) : Char :=
  if value < 10 then Char.ofNat (48 + value) else Char.ofNat (87 + value)

def value? (c : Char) : Option Nat :=
  if '0' ≤ c ∧ c ≤ '9' then some (c.toNat - 48)
  else if 'a' ≤ c ∧ c ≤ 'f' then some (c.toNat - 87)
  else if 'A' ≤ c ∧ c ≤ 'F' then some (c.toNat - 55)
  else none

def isDigit (c : Char) : Bool :=
  (value? c).isSome

def encodeChars : Bytes → List Char
  | [] => []
  | byte :: rest => digit (byte.toNat / 16) :: digit (byte.toNat % 16) :: encodeChars rest

def encode (bytes : Bytes) : String :=
  String.ofList (encodeChars bytes)

/-- Two digits a byte; `none` for anything else. -/
def decodeChars? : List Char → Option Bytes
  | [] => some []
  | [_] => none
  | high :: low :: rest => do
      let h ← value? high
      let l ← value? low
      let bytes ← decodeChars? rest
      some (UInt8.ofNat (16 * h + l) :: bytes)

def decode? (text : String) : Option Bytes :=
  decodeChars? text.toList

/-- Why a text is not the hexadecimal form of so many bytes. -/
inductive Problem where
  | oddLength
  | wrongLength
  /-- The byte at this position of the text is no digit. -/
  | notDigit (byte : UInt8) (position : Nat)
  deriving DecidableEq, Repr

/-- A character between single quotes; control characters, quote and backslash are escaped. -/
def quoted (c : Char) : String :=
  let body :=
    if c.toNat = 39 then "\\'"
    else if c.toNat = 92 then "\\\\"
    else if c = '\n' then "\\n"
    else if c = '\t' then "\\t"
    else if c = '\r' then "\\r"
    else if c.toNat = 0 then "\\0"
    else if c.toNat < 32 ∨ (127 ≤ c.toNat ∧ c.toNat ≤ 160) ∨ c.toNat = 173 then
      "\\u\x7b" ++ String.ofList (Nat.toDigits 16 c.toNat) ++ "\x7d"
    else c.toString
  "'" ++ body ++ "'"

def Problem.message : Problem → String
  | oddLength => "odd number of digits"
  | wrongLength => "invalid string length"
  | notDigit byte position =>
      "invalid character " ++ quoted (Char.ofNat byte.toNat) ++ " at position " ++ toString position

def dropMarker : List Char → List Char
  | '0' :: 'x' :: rest => rest
  | '0' :: 'X' :: rest => rest
  | text => text

private def scan (position : Nat) : Bytes → Except Problem Bytes
  | [] => .ok []
  | [_] => .error .oddLength
  | high :: low :: rest =>
      match value? (Char.ofNat high.toNat) with
      | none => .error (.notDigit high position)
      | some h =>
          match value? (Char.ofNat low.toNat) with
          | none => .error (.notDigit low (position + 1))
          | some l => do
              let bytes ← scan (position + 2) rest
              .ok (UInt8.ofNat (16 * h + l) :: bytes)

/-- Exactly `count` bytes, after an optional `0x` or `0X`. Lengths and positions count the bytes of
the text. -/
def decodeExactly (count : Nat) (text : List Char) : Except Problem Bytes :=
  let bytes := Bytes.ofText (String.ofList (dropMarker text))
  if bytes.length % 2 = 1 then .error .oddLength
  else if bytes.length ≠ 2 * count then .error .wrongLength
  else scan 0 bytes

end Notary.Hex
