import Notary.Account.Derivation
import Notary.Account.Mnemonic
import Notary.Account.Signer

namespace Notary

/-!
Seeds are texts that name a signer: a private key in hexadecimal, or a mnemonic phrase that may be
followed by two slashes and the number of an account. White space is what the Unicode property
`White_Space` has it to be.
-/

namespace Blank

def ranges : List (Nat × Nat) :=
  [(0x09, 0x0D), (0x20, 0x20), (0x85, 0x85), (0xA0, 0xA0), (0x1680, 0x1680), (0x2000, 0x200A),
    (0x2028, 0x2029), (0x202F, 0x202F), (0x205F, 0x205F), (0x3000, 0x3000)]

def isBlank (c : Char) : Bool :=
  ranges.any fun range => decide (range.1 ≤ c.toNat ∧ c.toNat ≤ range.2)

def trimStart (text : List Char) : List Char :=
  text.dropWhile isBlank

def trimEnd (text : List Char) : List Char :=
  (text.reverse.dropWhile isBlank).reverse

def trim (text : List Char) : List Char :=
  trimEnd (trimStart text)

end Blank

namespace Numeral

def isDigit (c : Char) : Bool :=
  decide ('0' ≤ c ∧ c ≤ '9')

def ofDigits (digits : List Char) : Nat :=
  digits.foldl (fun value c => value * 10 + (c.toNat - 48)) 0

def dropPlus : List Char → List Char
  | '+' :: rest => rest
  | text => text

/-- An unsigned numeral below `limit`. One leading plus sign and any leading zeros are allowed. -/
def parse? (limit : Nat) (text : List Char) : Option Nat :=
  let digits := dropPlus text
  if digits.isEmpty then none
  else if digits.all isDigit ∧ ofDigits digits < limit then some (ofDigits digits)
  else none

end Numeral

namespace Seed

def dropMarker : List Char → List Char
  | '0' :: 'x' :: rest => rest
  | text => text

def splitAccount : List Char → Option (List Char × List Char)
  | [] => none
  | [_] => none
  | c :: d :: rest =>
      if c = '/' ∧ d = '/' then some ([], rest)
      else (splitAccount (d :: rest)).map fun parts => (c :: parts.1, parts.2)

/-- The signer of 64 hexadecimal digits. One marker is dropped here, and one more by the reader of
the digits. -/
def ofPrivateKey (text : List Char) : Except Error Signer :=
  match Hex.decodeExactly 32 (dropMarker text) with
  | .error problem => .error (.invalidSeed ("Invalid private key format: " ++ problem.message))
  | .ok bytes =>
      match Secp256k1.PrivateKey.ofNat? (Bytes.toNatBE bytes) with
      | none => .error (.invalidSeed "Invalid private key format: signature error")
      | some key => .ok (.ofKey key)

def ofMnemonic (phrase : List Char) (account : Nat) : Except Error Signer :=
  match Mnemonic.check phrase with
  | .error problem => .error (.invalidSeed ("Invalid mnemonic: " ++ problem.message))
  | .ok () =>
      match Derivation.accountKey? (Mnemonic.secret phrase) account with
      | none => .error (.invalidSeed "Invalid mnemonic: signature error")
      | some key => .ok (.ofKey key)

def isKeyText (text : List Char) : Bool :=
  text.length == 64 && text.all Hex.isDigit

/-- The signer that a seed names. White space around the seed, the phrase and the number is
ignored. -/
def derive (seed : String) : Except Error Signer :=
  let text := Blank.trim seed.toList
  if text.isEmpty then .error (.invalidSeed "seed is empty")
  else if isKeyText (dropMarker text) then ofPrivateKey (dropMarker text)
  else
    match splitAccount text with
    | none => ofMnemonic text 0
    | some (phrase, number) =>
        match Numeral.parse? 0x1_0000_0000 (Blank.trim number) with
        | none => .error (.invalidSeed "account index is not a number")
        | some account => ofMnemonic (Blank.trim phrase) account

end Seed

end Notary
