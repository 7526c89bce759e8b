import Notary.Text.Hex

namespace Notary.SocketAddress

/-!
The texts of socket addresses: an address of version 4, or of version 6 between square brackets, a
colon, and a number of sixteen bits. Nothing else may stand before, between or after.
-/

def splitDigits (radix : Nat) (text : List Char) : List Char × List Char :=
  text.span fun c => ((Hex.value? c).filter (· < radix)).isSome

def digitsValue (radix : Nat) (digits : List Char) : Nat :=
  digits.foldl (fun value c => value * radix + (Hex.value? c).getD 0) 0

def skipChar? (c : Char) : List Char → Option (List Char)
  | d :: rest => if c = d then some rest else none
  | [] => none

/-- Skips a number below `limit` with at least one digit. -/
def skipNumber? (radix limit : Nat) (text : List Char) : Option (List Char) :=
  let (digits, rest) := splitDigits radix text
  if digits.isEmpty ∨ limit ≤ digitsValue radix digits then none else some rest

/-- Skips a decimal byte without leading zeros. -/
def skipByte? (text : List Char) : Option (List Char) :=
  let (digits, rest) := splitDigits 10 text
  if digits.isEmpty ∨ 3 < digits.length ∨ 255 < digitsValue 10 digits
      ∨ (1 < digits.length ∧ digits.head? = some '0') then none
  else some rest

/-- Skips a piece of one to four hexadecimal digits. -/
def skipPiece? (text : List Char) : Option (List Char) :=
  let (digits, rest) := splitDigits 16 text
  if digits.isEmpty ∨ 4 < digits.length then none else some rest

def skipIpv4? (text : List Char) : Option (List Char) := do
  let rest ← skipByte? text
  let rest ← skipByte? (← skipChar? '.' rest)
  let rest ← skipByte? (← skipChar? '.' rest)
  skipByte? (← skipChar? '.' rest)

/-- Skips up to `room` pieces; an address of version 4 may be the last two. Gives the number of
pieces and whether such an address ended them. -/
def skipPieces : (room : Nat) → (first : Bool) → List Char → Nat × Bool × List Char
  | 0, _, text => (0, false, text)
  | room + 1, first, text =>
      let start? := if first then some text else skipChar? ':' text
      match (if room = 0 then none else start?.bind skipIpv4?) with
      | some rest => (2, true, rest)
      | none =>
          match start?.bind skipPiece? with
          | none => (0, false, text)
          | some rest =>
              let (count, dotted, rest) := skipPieces room false rest
              (count + 1, dotted, rest)

def skipIpv6? (text : List Char) : Option (List Char) :=
  let (head, dotted, rest) := skipPieces 8 true text
  if head = 8 then some rest
  else if dotted then none
  else do
    let rest ← skipChar? ':' rest
    let rest ← skipChar? ':' rest
    let (_, _, rest) := skipPieces (8 - (head + 1)) true rest
    some rest

def skipZone (text : List Char) : List Char :=
  ((skipChar? '%' text).bind (skipNumber? 10 0x1_0000_0000)).getD text

/-- Skips a colon and a number of sixteen bits. -/
def skipService? (text : List Char) : Option (List Char) := do
  skipNumber? 10 0x1_0000 (← skipChar? ':' text)

def skipVersion4? (text : List Char) : Option (List Char) := do
  skipService? (← skipIpv4? text)

def skipVersion6? (text : List Char) : Option (List Char) := do
  let rest ← skipIpv6? (← skipChar? '[' text)
  skipService? (← skipChar? ']' (skipZone rest))

def isValid (text : String) : Bool :=
  skipVersion4? text.toList == some [] || skipVersion6? text.toList == some []

end Notary.SocketAddress
