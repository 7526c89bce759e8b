namespace Notary.Punycode

/-!
Labels of host names that write other characters in letters and digits. Such a label holds its plain
characters, a dash, and the digits of numbers that say which character comes next and where.
-/

def base : Nat := 36

def digit? (c : Char) : Option Nat :=
  if 'a' ≤ c ∧ c ≤ 'z' then some (c.toNat - 97)
  else if 'A' ≤ c ∧ c ≤ 'Z' then some (c.toNat - 65)
  else if '0' ≤ c ∧ c ≤ '9' then some (c.toNat - 22)
  else none

/-- Divides a number down to the range that a bias is read from: the number and the steps taken. -/
def shrink (delta steps : Nat) : Nat × Nat :=
  if delta ≤ 455 then (delta, steps) else shrink (delta / 35) (steps + 1)
termination_by delta

/-- The bias of the next number after one that is `moved`. -/
def adapt (moved count : Nat) (first : Bool) : Nat :=
  let halved := if first then moved / 700 else moved / 2
  let (delta, steps) := shrink (halved + halved / count) 0
  base * steps + base * delta / (delta + 38)

/-- A digit below this value is the last one of its number. -/
def threshold (bias place : Nat) : Nat :=
  min 26 (max 1 (place - bias))

/-- What has been read so far: the characters' codes, the code and the position of the last one
inserted, and the bias of the next number. -/
structure Progress where
  codes : List Nat
  code : Nat
  position : Nat
  bias : Nat

/-- Inserts the character that a number names: the number counts the places that the pair of code
and position moves on. -/
def Progress.insert (progress : Progress) (moved : Nat) : Progress :=
  let count := progress.codes.length + 1
  let target := progress.position + moved
  let code := progress.code + target / count
  let position := target % count
  { codes := progress.codes.take position ++ code :: progress.codes.drop position
    code
    position := position + 1
    bias := adapt moved count (progress.position = 0) }

/-- Reads the digits of numbers, the least significant digit first. -/
def readNumbers : (value weight place : Nat) → Progress → List Char → Option (List Nat)
  | _, _, place, progress, [] => if place = base then some progress.codes else none
  | value, weight, place, progress, c :: rest => do
      let digit ← digit? c
      let value := value + digit * weight
      let limit := threshold progress.bias place
      if digit < limit then readNumbers 0 1 base (progress.insert value) rest
      else readNumbers value (weight * (base - limit)) (place + base) progress rest

/-- The plain characters before the last dash, and the digits after it. -/
def splitPlain (label : List Char) : List Char × List Char :=
  match label.reverse.span (· != '-') with
  | (digits, _ :: plain) =>
      if plain.isEmpty then ([], label) else (plain.reverse, digits.reverse)
  | _ => ([], label)

def decode? (label : List Char) : Option (List Nat) :=
  let (plain, digits) := splitPlain label
  readNumbers 0 1 base ⟨plain.map Char.toNat, 128, 0, 72⟩ digits

/-- Codes that no name holds, or that names hold in another form only. -/
def barredRanges : List (Nat × Nat) :=
  [(0x00, 0x2c), (0x2f, 0x2f), (0x3a, 0x60), (0x7b, 0xa0), (0xa8, 0xa8), (0xaa, 0xaa), (0xad, 0xad),
    (0xaf, 0xaf), (0xb2, 0xb5), (0xb8, 0xba), (0xbc, 0xbe), (0xc0, 0xd6), (0xd8, 0xde),
    (0x2000, 0x200b), (0x200e, 0x200f), (0x2028, 0x202f), (0x205f, 0x206f), (0x3000, 0x3000),
    (0xd800, 0xf8ff), (0xfdd0, 0xfdef), (0xfe00, 0xfe0f), (0xfeff, 0xfeff), (0xff01, 0xff9f),
    (0xfff0, 0xffff)]

/-- Marks that join the character before them. -/
def isJoining (code : Nat) : Bool :=
  0x300 ≤ code && code ≤ 0x36f

def isNameCode (code : Nat) : Bool :=
  code ≤ 0x10ffff && !barredRanges.any fun range => range.1 ≤ code && code ≤ range.2

/-- Whether a label of digits stands for a name that could not be written plainly. -/
def isValid (label : List Char) : Bool :=
  match decode? label with
  | none => false
  | some codes =>
      codes.any (128 ≤ ·) && codes.all isNameCode && !(codes.head?.map isJoining).getD false

end Notary.Punycode
