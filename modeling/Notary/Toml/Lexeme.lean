import Notary.Text.Hex

namespace Notary.Lexeme

/-!
The lexical parts of configuration documents: blanks, comments, keys, quoted strings, numbers and
times. Each reader gives the value at the start of the text and the text after it.
-/

abbrev Reader (α : Type) := List Char → Option (α × List Char)

def isBlank (c : Char) : Bool :=
  c = ' ' || c = '\t'

def skipBlanks (text : List Char) : List Char :=
  text.dropWhile isBlank

/-- Whether a character may stand in a comment: anything but control characters, tabs aside. -/
def isPlain (c : Char) : Bool :=
  c = '\t' || (0x20 ≤ c.toNat && c.toNat ≠ 0x7f)

def skipBreak? : List Char → Option (List Char)
  | '\n' :: rest => some rest
  | '\r' :: '\n' :: rest => some rest
  | _ => none

def skipComment : List Char → List Char
  | '#' :: rest => rest.dropWhile isPlain
  | text => text

/-- The text after the end of a line: blanks, a comment, and a line break or the end. -/
def skipLineEnd? (text : List Char) : Option (List Char) :=
  match skipComment (skipBlanks text) with
  | [] => some []
  | rest => skipBreak? rest

/-- The text after blanks, comments and line breaks; `fuel` bounds the number of line breaks. -/
def skipLines : (fuel : Nat) → List Char → List Char
  | 0, text => text
  | fuel + 1, text =>
      let rest := skipComment (skipBlanks text)
      match skipBreak? rest with
      | some after => skipLines fuel after
      | none => rest

def isBareKeyChar (c : Char) : Bool :=
  c.isAlphanum || c = '_' || c = '-'

/-- The scalar value that hexadecimal digits write, if it is one. -/
def scalar? (digits : List Char) : Option Char := do
  let value ← digits.foldlM (fun value c => (Hex.value? c).map (value * 16 + ·)) 0
  if value.isValidChar then some (Char.ofNat value) else none

def escape? : Reader Char
  | 'b' :: rest => some (Char.ofNat 8, rest)
  | 't' :: rest => some ('\t', rest)
  | 'n' :: rest => some ('\n', rest)
  | 'f' :: rest => some (Char.ofNat 12, rest)
  | 'r' :: rest => some ('\r', rest)
  | '"' :: rest => some ('"', rest)
  | 'u' :: rest =>
      if (rest.take 4).length = 4 then (scalar? (rest.take 4)).map (·, rest.drop 4) else none
  | 'U' :: rest =>
      if (rest.take 8).length = 8 then (scalar? (rest.take 8)).map (·, rest.drop 8) else none
  | c :: rest => if c.toNat = 0x5c then some (c, rest) else none
  | [] => none

def isBackslash (c : Char) : Bool := c.toNat = 0x5c

def isApostrophe (c : Char) : Bool := c.toNat = 0x27

/-- The rest of a string in double quotes; `kept` is what was read, last character first. -/
def basicString : (fuel : Nat) → (kept : List Char) → Reader String
  | 0, _, _ => none
  | fuel + 1, kept, text =>
      match text with
      | [] => none
      | c :: rest =>
          if c = '"' then some (String.ofList kept.reverse, rest)
          else if isBackslash c then do
            let (escaped, rest) ← escape? rest
            basicString fuel (escaped :: kept) rest
          else if isPlain c then basicString fuel (c :: kept) rest
          else none

/-- The rest of a string in apostrophes. -/
def literalString (text : List Char) : Option (String × List Char) :=
  match text.span fun c => isPlain c && !isApostrophe c with
  | (body, c :: rest) => if isApostrophe c then some (String.ofList body, rest) else none
  | _ => none

/-- Splits off up to `most` quotation marks at the start. -/
def quotes (isQuote : Char → Bool) : (most : Nat) → List Char → Nat × List Char
  | most + 1, c :: rest =>
      if isQuote c then
        let (count, after) := quotes isQuote most rest
        (count + 1, after)
      else (0, c :: rest)
  | _, text => (0, text)

/-- The text after a backslash at the end of a line, and all blanks and line breaks that follow. -/
def skipContinuation? (text : List Char) : Option (List Char) := do
  let rest ← skipBreak? (skipBlanks text)
  some (rest.dropWhile fun c => isBlank c || c = '\n' || c = '\r')

/-- The rest of a string of many lines in three marks each. Up to two marks may stand in it or just
before its end. -/
def longString (isQuote : Char → Bool) (escapes : Bool) :
    (fuel : Nat) → (kept : List Char) → Reader String
  | 0, _, _ => none
  | fuel + 1, kept, text =>
      match skipBreak? text with
      | some rest => longString isQuote escapes fuel ('\n' :: kept) rest
      | none =>
          match text with
          | [] => none
          | c :: rest =>
              if isQuote c then
                let (count, after) := quotes isQuote 5 text
                if 3 ≤ count then
                  some (String.ofList (kept.reverse ++ List.replicate (count - 3) c), after)
                else longString isQuote escapes fuel (List.replicate count c ++ kept) after
              else if escapes && isBackslash c then
                match skipContinuation? rest with
                | some after => longString isQuote escapes fuel kept after
                | none => do
                    let (escaped, after) ← escape? rest
                    longString isQuote escapes fuel (escaped :: kept) after
              else if isPlain c then longString isQuote escapes fuel (c :: kept) rest
              else none

def dropBreak (text : List Char) : List Char :=
  (skipBreak? text).getD text

def string (text : List Char) : Option (String × List Char) :=
  match text with
  | '"' :: '"' :: '"' :: rest => longString (· = '"') true (rest.length + 1) [] (dropBreak rest)
  | '"' :: rest => basicString (rest.length + 1) [] rest
  | a :: b :: c :: rest =>
      if isApostrophe a && isApostrophe b && isApostrophe c then
        longString isApostrophe false (rest.length + 1) [] (dropBreak rest)
      else if isApostrophe a then literalString (b :: c :: rest)
      else none
  | a :: rest => if isApostrophe a then literalString rest else none
  | [] => none

/-- One part of a key: bare, or a string of one line. -/
def keyPart (text : List Char) : Option (String × List Char) :=
  match text with
  | '"' :: rest => basicString (rest.length + 1) [] rest
  | c :: rest =>
      if isApostrophe c then literalString rest
      else
        let (bare, after) := text.span isBareKeyChar
        if bare.isEmpty then none else some (String.ofList bare, after)
  | [] => none

/-- The parts of a key between dots. -/
def keyParts : (fuel : Nat) → Reader (List String)
  | 0, _ => none
  | fuel + 1, text => do
      let (part, rest) ← keyPart (skipBlanks text)
      match skipBlanks rest with
      | '.' :: after => do
          let (parts, rest) ← keyParts fuel after
          some (part :: parts, rest)
      | after => some ([part], after)

/-- The greatest number of levels of a document, plus one. -/
def depthLimit : Nat := 80

/-- A key as its path and its last part. -/
def key (text : List Char) : Option ((List String × String) × List Char) := do
  let (parts, rest) ← keyParts (text.length + 1) text
  if depthLimit ≤ parts.length then none
  else some ((parts.dropLast, ← parts.getLast?), rest)

def isDecimalDigit (c : Char) : Bool :=
  '0' ≤ c && c ≤ '9'

/-- Digits at the start of a text, with single underscores between them. -/
def digits (isDigit : Char → Bool) : List Char → List Char × List Char
  | c :: '_' :: rest =>
      if isDigit c then
        match digits isDigit rest with
        | ([], _) => ([c], '_' :: rest)
        | (more, tail) => (c :: more, tail)
      else ([], c :: '_' :: rest)
  | c :: rest =>
      if isDigit c then
        let (more, tail) := digits isDigit rest
        (c :: more, tail)
      else ([], c :: rest)
  | [] => ([], [])

def digitsValue (radix : Nat) (digits : List Char) : Nat :=
  digits.foldl (fun value c => value * radix + (Hex.value? c).getD 0) 0

/-- The first number beyond a signed word of 64 bits. -/
def integerLimit : Nat := 0x8000_0000_0000_0000

def sign (text : List Char) : Bool × List Char :=
  match text with
  | '-' :: rest => (true, rest)
  | '+' :: rest => (false, rest)
  | _ => (false, text)

/-- The whole part of a decimal number: no zeros before other digits. -/
def wholeDigits (text : List Char) : Option (List Char × List Char) :=
  match text with
  | '0' :: rest => some (['0'], rest)
  | _ =>
      match digits isDecimalDigit text with
      | ([], _) => none
      | found => some found

/-- An integer with a marker for its radix. -/
def markedInteger (radix : Nat) (text : List Char) : Option (Int × List Char) :=
  match digits (fun c => ((Hex.value? c).filter (· < radix)).isSome) text with
  | ([], _) => none
  | (found, rest) =>
      let value := digitsValue radix found
      if value < integerLimit then some ((value : Int), rest) else none

def decimalInteger (text : List Char) : Option (Int × List Char) := do
  let (negative, unsigned) := sign text
  let (found, rest) ← wholeDigits unsigned
  let value := digitsValue 10 found
  if negative then
    if value ≤ integerLimit then some (-(value : Int), rest) else none
  else if value < integerLimit then some ((value : Int), rest)
  else none

def integer (text : List Char) : Option (Int × List Char) :=
  match text with
  | '0' :: 'x' :: rest => markedInteger 16 rest
  | '0' :: 'o' :: rest => markedInteger 8 rest
  | '0' :: 'b' :: rest => markedInteger 2 rest
  | _ => decimalInteger text

/-- The sign, the digits and the exponent of a decimal fraction: it has a point or an exponent. -/
structure Fraction where
  negative : Bool
  digits : Nat
  exponent : Int

/-- The digits after a point, if there is one. -/
def pointDigits (text : List Char) : Option (Option (List Char) × List Char) :=
  match text with
  | '.' :: rest =>
      match digits isDecimalDigit rest with
      | ([], _) => none
      | (found, after) => some (some found, after)
  | _ => some (none, text)

/-- The exponent after its mark, if there is one. -/
def exponentOf (text : List Char) : Option (Option Int × List Char) :=
  match text with
  | c :: rest =>
      if c = 'e' || c = 'E' then
        let (negative, unsigned) := sign rest
        match digits isDecimalDigit unsigned with
        | ([], _) => none
        | (found, after) =>
            let value : Int := digitsValue 10 found
            some (some (if negative then -value else value), after)
      else some (none, text)
  | [] => some (none, [])

def fraction (text : List Char) : Option (Fraction × List Char) := do
  let (negative, unsigned) := sign text
  let (whole, rest) ← wholeDigits unsigned
  let (point, rest) ← pointDigits rest
  let (exponent, rest) ← exponentOf rest
  if point.isNone && exponent.isNone then none
  else
    let places := point.getD []
    some (⟨negative, digitsValue 10 (whole ++ places), exponent.getD 0 - places.length⟩, rest)

/-- Exactly `count` decimal digits that write a number of the given range. -/
def fixedDigits (count low high : Nat) (text : List Char) : Option (Nat × List Char) :=
  let found := text.take count
  let value := digitsValue 10 found
  if found.length = count ∧ found.all isDecimalDigit ∧ low ≤ value ∧ value ≤ high then
    some (value, text.drop count)
  else none

def skipChar? (c : Char) : List Char → Option (List Char)
  | d :: rest => if c = d then some rest else none
  | [] => none

def isLeapYear (year : Nat) : Bool :=
  year % 4 == 0 && (year % 100 != 0 || year % 400 == 0)

def daysOf (year month : Nat) : Nat :=
  if month = 2 then (if isLeapYear year then 29 else 28)
  else if month ∈ [4, 6, 9, 11] then 30
  else 31

def skipDate? (text : List Char) : Option (List Char) := do
  let (year, rest) ← fixedDigits 4 0 9999 text
  let rest ← skipChar? '-' rest
  let (month, rest) ← fixedDigits 2 1 12 rest
  let rest ← skipChar? '-' rest
  let (_, rest) ← fixedDigits 2 1 (daysOf year month) rest
  some rest

def skipTime? (text : List Char) : Option (List Char) := do
  let (_, rest) ← fixedDigits 2 0 23 text
  let rest ← skipChar? ':' rest
  let (_, rest) ← fixedDigits 2 0 59 rest
  let rest ← skipChar? ':' rest
  let (_, rest) ← fixedDigits 2 0 60 rest
  match rest with
  | '.' :: after =>
      let (found, after) := after.span isDecimalDigit
      if found.isEmpty then none else some after
  | _ => some rest

def skipOffset? (text : List Char) : Option (List Char) :=
  match text with
  | 'Z' :: rest | 'z' :: rest => some rest
  | c :: rest =>
      if c = '+' || c = '-' then do
        let (_, rest) ← fixedDigits 2 0 23 rest
        let rest ← skipChar? ':' rest
        let (_, rest) ← fixedDigits 2 0 59 rest
        some rest
      else some text
  | [] => some []

def skipDatetime? (text : List Char) : Option (List Char) :=
  match skipDate? text with
  | some rest =>
      match rest with
      | c :: after =>
          if c = 'T' || c = 't' || c = ' ' then
            match skipTime? after with
            | some rest => skipOffset? rest
            | none => if c = ' ' then some rest else none
          else some rest
      | [] => some []
  | none => skipTime? text

end Notary.Lexeme
