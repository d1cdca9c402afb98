import ArchivalBag.Text.Hex

/-!
# Percent encoding

A byte is written as a percent sign and two hexadecimal digits. Which characters have to be written
so depends on the part of a URL they stand in; a character outside ASCII is always written by its
UTF-8 bytes.

* `encode p`: the characters with the property `p`, and all those outside ASCII, percent-encoded.
* `decode`: the bytes of a text in which a percent sign with two hexadecimal digits stands for one.
* `isControl`, `inFragment`, `inQuery`, `inSpecialQuery`, `inPath`, `inUserinfo`: the characters that
  are written so in each part.
-/

namespace ArchivalBag.Url.Percent

open Text

/-- A byte, written out. -/
def encodeByte (b : UInt8) : List Char :=
  ['%', hexDigit (b.toNat / 16), hexDigit (b.toNat % 16)]

/-- The bytes of a character, written out. -/
def encodeChar (c : Char) : List Char :=
  (String.utf8EncodeChar c).flatMap encodeByte

/-- A text with the characters that have the property `p`, and those outside ASCII, written out. -/
def encode (p : Char → Bool) (cs : List Char) : List Char :=
  cs.flatMap fun c => if p c || 128 ≤ c.toNat then encodeChar c else [c]

/-- The bytes a text stands for. -/
def decode : List Char → List UInt8
  | '%' :: a :: b :: r =>
    match hexValue? a, hexValue? b with
    | some x, some y => UInt8.ofNat (16 * x + y) :: decode r
    | _, _ => 37 :: decode (a :: b :: r)
  | c :: r => String.utf8EncodeChar c ++ decode r
  | [] => []

/-- The control characters of ASCII. -/
def isControl (c : Char) : Bool :=
  c.toNat < 32 || c.toNat == 127

/-- Written out in a fragment. -/
def inFragment (c : Char) : Bool :=
  isControl c || c == ' ' || c == '"' || c == '<' || c == '>' || c.toNat == 0x60

/-- Written out in a query. -/
def inQuery (c : Char) : Bool :=
  isControl c || c == ' ' || c == '"' || c == '#' || c == '<' || c == '>'

/-- Written out in the query of a special scheme. -/
def inSpecialQuery (c : Char) : Bool :=
  inQuery c || c == '\''

/-- Written out in a path. -/
def inPath (c : Char) : Bool :=
  inFragment c || c == '#' || c == '?' || c.toNat == 0x7B || c.toNat == 0x7D

/-- Written out in a user name or a password. -/
def inUserinfo (c : Char) : Bool :=
  inPath c || c == '/' || c == ':' || c == ';' || c == '=' || c == '@' || c == '[' ||
    c == '\\' || c == ']' || c == '^' || c == '|'

end ArchivalBag.Url.Percent
