import Notary.Url.Percent
import Notary.Url.Punycode

namespace Notary

/-!
Hosts of URLs: names in lower case, and addresses of versions 4 and 6 in any of their spellings. A
name whose last label looks like a number must be an address.
-/

inductive UrlProblem where
  /-- There is no scheme, so the text only makes sense relative to another URL. -/
  | noScheme
  | emptyHost
  | portNumber
  | ipv4Address
  | ipv6Address
  /-- The name holds a character that no name may hold. -/
  | domainName
  /-- The same of a host whose scheme gives it no structure. -/
  | opaqueHost
  deriving DecidableEq, Repr

def UrlProblem.message : UrlProblem → String
  | noScheme => "relative URL without a base"
  | emptyHost => "empty host"
  | portNumber => "invalid port number"
  | ipv4Address => "invalid IPv4 address"
  | ipv6Address => "invalid IPv6 address"
  | domainName => "invalid international domain name"
  | opaqueHost => "invalid domain character"

inductive Host where
  | name (text : String)
  | ipv4 (address : Nat)
  | ipv6 (pieces : List Nat)
  deriving DecidableEq, Repr

namespace Host

/-- The items between separators. -/
def splitAt (separator : Char) : List Char → List (List Char)
  | [] => [[]]
  | c :: rest =>
      if c = separator then [] :: splitAt separator rest
      else
        match splitAt separator rest with
        | [] => [[c]]
        | item :: items => (c :: item) :: items

def digitValue? (radix : Nat) (c : Char) : Option Nat :=
  (Hex.value? c).filter fun value => value < radix

def number? (radix : Nat) (digits : List Char) : Option Nat :=
  digits.foldlM (fun value c => (digitValue? radix c).map (value * radix + ·)) 0

/-- A part of a version 4 address: decimal, or with a marker octal or hexadecimal. -/
def ipv4Part? : List Char → Option Nat
  | [] => none
  | '0' :: 'x' :: rest | '0' :: 'X' :: rest => number? 16 rest
  | '0' :: c :: rest => number? 8 (c :: rest)
  | digits => number? 10 digits

def isDecimal (label : List Char) : Bool :=
  !label.isEmpty && label.all fun c => (digitValue? 10 c).isSome

/-- Whether the last label, a trailing empty one aside, is a number. -/
def endsInNumber (name : List Char) : Bool :=
  let last (labels : List (List Char)) : Bool :=
    match labels with
    | [] => false
    | label :: _ => isDecimal label || (ipv4Part? label).isSome
  match (splitAt '.' name).reverse with
  | [] => false
  | [] :: rest => last rest
  | labels => last labels

/-- The address that up to four parts write; the last part fills all the bytes left. -/
def parseIpv4? (name : List Char) : Option Nat := do
  let labels := splitAt '.' name
  let labels := if labels.getLast? = some [] then labels.dropLast else labels
  if 4 < labels.length then none
  else
    let parts ← labels.mapM ipv4Part?
    let last ← parts.getLast?
    let leading := parts.dropLast
    let filled := 8 * (4 - leading.length)
    if 1 <<< filled ≤ last ∨ leading.any (255 < ·) then none
    else some ((leading.foldl (· * 256 + ·) 0 <<< filled) + last)

/-- Four decimal bytes without leading zeros, as the last two pieces of a version 6 address. -/
def dottedPieces? (text : List Char) : Option (List Nat) := do
  let labels := splitAt '.' text
  let bytes ← labels.mapM fun label =>
    if isDecimal label ∧ (label.length = 1 ∨ label.head? ≠ some '0') then
      (number? 10 label).filter (· < 256)
    else none
  match bytes with
  | [a, b, c, d] => some [a * 256 + b, c * 256 + d]
  | _ => none

/-- The pieces of a text without a run of omitted zeros; dots may end it. -/
def pieces? (labels : List (List Char)) : Option (List Nat) :=
  match labels with
  | [] => some []
  | [last] =>
      if last.contains '.' then dottedPieces? last
      else if last.isEmpty ∨ 4 < last.length then none
      else (number? 16 last).map fun value => [value]
  | label :: rest =>
      if label.isEmpty ∨ 4 < label.length then none
      else do
        let value ← number? 16 label
        let values ← pieces? rest
        some (value :: values)

/-- The text before and after the first pair of colons. -/
def splitOmitted : List Char → Option (List Char × List Char)
  | ':' :: ':' :: rest => some ([], rest)
  | c :: rest => (splitOmitted rest).map fun parts => (c :: parts.1, parts.2)
  | [] => none

/-- The pieces of one side of the omitted run. -/
def side? (text : List Char) : Option (List Nat) :=
  if text.isEmpty then some [] else pieces? (splitAt ':' text)

/-- Eight pieces of sixteen bits, with at most one run of zero pieces omitted. -/
def parseIpv6? (text : List Char) : Option (List Nat) :=
  match splitOmitted text with
  | none => (side? text).filter fun values => values.length = 8
  | some (before, after) => do
      if before.contains '.' then none
      else
        let head ← side? before
        let tail ← side? after
        if head.length + tail.length < 8 then
          some (head ++ List.replicate (8 - head.length - tail.length) 0 ++ tail)
        else none

/-- The characters that no name may hold, control characters aside. -/
def forbidden : List Char :=
  [' ', '%', '#', '/', ':', '<', '>', '?', '@', '[', Char.ofNat 0x5c, ']', '^', '|']

def isNameByte (byte : UInt8) : Bool :=
  0x20 < byte && byte < 0x7f && !forbidden.contains (Char.ofNat byte.toNat)

/-- Whether a label is plain, or stands for one that could not be written plainly. -/
def isLabel (label : List Char) : Bool :=
  match label with
  | 'x' :: 'n' :: '-' :: '-' :: encoded => Punycode.isValid encoded
  | _ => true

/-- The host of a scheme that gives it structure. -/
def parse (text : List Char) : Except UrlProblem Host :=
  match text with
  | '[' :: rest =>
      if rest.getLast? = some ']' then
        match parseIpv6? rest.dropLast with
        | some pieces => .ok (.ipv6 pieces)
        | none => .error .ipv6Address
      else .error .ipv6Address
  | _ =>
      let bytes := Percent.decode text
      if bytes.all isNameByte then
        let name := bytes.map fun byte => (Char.ofNat byte.toNat).toLower
        if name.isEmpty then .error .emptyHost
        else if !(splitAt '.' name).all isLabel then .error .domainName
        else if endsInNumber name then
          match parseIpv4? name with
          | some address => .ok (.ipv4 address)
          | none => .error .ipv4Address
        else .ok (.name (String.ofList name))
      else .error .domainName

/-- Whether a character may stand in a host without structure. -/
def isOpaqueChar (c : Char) : Bool :=
  c.toNat ≠ 0 && !(forbidden.filter (· != '%')).contains c

/-- Checks a host of a scheme that gives it no structure. -/
def checkOpaque (text : List Char) : Except UrlProblem Unit :=
  match text with
  | '[' :: rest =>
      if rest.getLast? = some ']' ∧ (parseIpv6? rest.dropLast).isSome then .ok ()
      else .error .ipv6Address
  | _ => if text.all isOpaqueChar then .ok () else .error .opaqueHost

/-- Where the longest run of at least two zero pieces starts, and its length; the first one of
equal runs. -/
def zeroRun (pieces : List Nat) : Option (Nat × Nat) :=
  let runs := (List.range pieces.length).map fun start =>
    (start, ((pieces.drop start).takeWhile (· = 0)).length)
  runs.foldl (fun best run =>
    if run.2 < 2 then best
    else
      match best with
      | none => some run
      | some other => if other.2 < run.2 then some run else some other) none

def piecesText (pieces : List Nat) : String :=
  ":".intercalate (pieces.map fun piece => String.ofList (Nat.toDigits 16 piece))

def text : Host → String
  | name text => text
  | ipv4 address =>
      ".".intercalate ((Bytes.ofNatBE 4 address).map fun byte => toString byte.toNat)
  | ipv6 pieces =>
      match zeroRun pieces with
      | none => "[" ++ piecesText pieces ++ "]"
      | some (start, length) =>
          "[" ++ piecesText (pieces.take start) ++ "::"
            ++ piecesText (pieces.drop (start + length)) ++ "]"

end Host

end Notary
