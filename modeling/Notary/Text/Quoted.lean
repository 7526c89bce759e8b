namespace Notary.Quoted

/-!
Texts in double quotes, as values show them. What has no visible form of its own is escaped, and so
are quotes and backslashes.
-/

/-- Ranges of characters without a visible form: controls, blanks other than the space, marks that
join the character before them, formats, surrogates and characters for private use. -/
def hiddenRanges : List (Nat × Nat) :=
  [(0x00, 0x1f), (0x7f, 0xa0), (0xad, 0xad), (0x300, 0x36f), (0x483, 0x489), (0x591, 0x5bd),
    (0x600, 0x605), (0x610, 0x61a), (0x61c, 0x61c), (0x64b, 0x65f), (0x6dd, 0x6dd), (0x70f, 0x70f),
    (0x1680, 0x1680), (0x180b, 0x180f), (0x1ab0, 0x1ace), (0x1dc0, 0x1dff), (0x2000, 0x200f),
    (0x2028, 0x202f), (0x205f, 0x206f), (0x20d0, 0x20f0), (0x3000, 0x3000), (0xd800, 0xf8ff),
    (0xfe00, 0xfe0f), (0xfe20, 0xfe2f), (0xfeff, 0xfeff), (0xfff0, 0xfffb), (0xfffe, 0xffff),
    (0xe0000, 0x10ffff)]

def isHidden (c : Char) : Bool :=
  hiddenRanges.any fun range => range.1 ≤ c.toNat && c.toNat ≤ range.2

/-- The digits between the braces of an escape. -/
def codeDigits (c : Char) : List Char :=
  Nat.toDigits 16 c.toNat

def encodeChar (c : Char) : List Char :=
  let escaped (mark : Char) : List Char := [Char.ofNat 0x5c, mark]
  if c.toNat = 0 then escaped '0'
  else if c = '\t' then escaped 't'
  else if c = '\n' then escaped 'n'
  else if c = '\r' then escaped 'r'
  else if c = '"' || c.toNat = 0x5c then escaped c
  else if isHidden c then escaped 'u' ++ ['\x7b'] ++ codeDigits c ++ ['\x7d']
  else [c]

def encode (text : String) : String :=
  String.ofList ('"' :: (text.toList.flatMap encodeChar ++ ['"']))

end Notary.Quoted
