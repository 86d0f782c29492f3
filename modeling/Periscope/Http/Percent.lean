/-!
# Percent encoding

Bytes that a part of a URL cannot hold are written as a percent sign with two hexadecimal digits. Every part
has a set of characters that it holds as they are. Form encoding writes a blank as a plus sign.
-/

namespace Periscope.Http

/-- A hexadecimal digit in capital letters. -/
def upperHexDigit (n : Nat) : Char := (Nat.digitChar n).toUpper

/-- A byte in its encoded form. -/
def encodedByte (b : UInt8) : List Char :=
  ['%', upperHexDigit (b.toNat / 16), upperHexDigit (b.toNat % 16)]

/-- A character in its encoded form, byte by byte. -/
def encodedChar (c : Char) : List Char := (String.utf8EncodeChar c).flatMap encodedByte

/-- Encodes the characters that do not hold. -/
def percentEncode (holds : Char → Bool) (s : List Char) : List Char :=
  s.flatMap fun c => if holds c then [c] else encodedChar c

/-! ## Sets of characters -/

/-- The characters of ASCII that are no controls. -/
def isVisible (c : Char) : Bool := ' ' ≤ c && c ≤ '~'

/-- What a fragment holds. -/
def inFragment (c : Char) : Bool := isVisible c && !" \"<>\x60".toList.contains c

/-- What a path holds. -/
def inPath (c : Char) : Bool := inFragment c && !"#?\x7B\x7D".toList.contains c

/-- What a segment holds that is put into a path as a whole. -/
def inSegment (isSpecial : Bool) (c : Char) : Bool :=
  inPath c && c != '/' && c != '%' && !(isSpecial && c == '\\')

/-- What the name of a user and a password hold. -/
def inUserinfo (c : Char) : Bool := inPath c && !"/:;=@[\\]^|".toList.contains c

/-- What a query holds. -/
def inQuery (isSpecial : Bool) (c : Char) : Bool :=
  isVisible c && !" \"#<>".toList.contains c && !(isSpecial && c == '\'')

/-- What form encoding leaves as it is. -/
def inForm (c : Char) : Bool := c.isAlphanum || "*-._".toList.contains c

/-- The form encoding of a text. -/
def formEncode (s : List Char) : List Char :=
  s.flatMap fun c => if inForm c then [c] else if c == ' ' then ['+'] else encodedChar c

/-! ## Decoding -/

/-- The value of a hexadecimal digit. -/
def hexDigitValue? (c : Char) : Option Nat :=
  if c.isDigit then some (c.toNat - 0x30)
  else if 'a' ≤ c && c ≤ 'f' then some (c.toNat - 0x57)
  else if 'A' ≤ c && c ≤ 'F' then some (c.toNat - 0x37)
  else none

/-- The bytes that an encoded text stands for. A percent sign without two digits stands for itself. -/
def percentDecode : List Char → List UInt8
  | '%' :: a :: b :: rest =>
    match hexDigitValue? a, hexDigitValue? b with
    | some high, some low => UInt8.ofNat (16 * high + low) :: percentDecode rest
    | _, _ => String.utf8EncodeChar '%' ++ percentDecode (a :: b :: rest)
  | c :: rest => String.utf8EncodeChar c ++ percentDecode rest
  | [] => []

end Periscope.Http
