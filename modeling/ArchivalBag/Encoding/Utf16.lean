/-!
# UTF-16

A text in units of two bytes, in one of the two orders. A character beyond the first plane takes two
units, a high surrogate and a low one; a surrogate that stands alone and a last odd byte make the text
malformed.

* `encode`, `decode?`: the bytes of a text, and the text of well-formed bytes.
-/

namespace ArchivalBag.Encoding.Utf16

/-- The order of the bytes of a unit. -/
inductive ByteOrder where
  | little
  | big
  deriving DecidableEq, Repr

/-- The unit of two bytes. -/
def unit (o : ByteOrder) (a b : UInt8) : Nat :=
  match o with
  | .little => 256 * b.toNat + a.toNat
  | .big => 256 * a.toNat + b.toNat

/-- The bytes of a unit. -/
def unitBytes (o : ByteOrder) (u : Nat) : List UInt8 :=
  match o with
  | .little => [UInt8.ofNat (u % 256), UInt8.ofNat (u / 256)]
  | .big => [UInt8.ofNat (u / 256), UInt8.ofNat (u % 256)]

/-- The units of a text of whole units. -/
def units? (o : ByteOrder) : List UInt8 → Option (List Nat)
  | [] => some []
  | [_] => none
  | a :: b :: r => (units? o r).map (unit o a b :: ·)

/-- The unit is the first half of a character. -/
def isHigh (u : Nat) : Bool := 0xD800 ≤ u && u < 0xDC00

/-- The unit is the second half of a character. -/
def isLow (u : Nat) : Bool := 0xDC00 ≤ u && u < 0xE000

/-- The character of a high and a low surrogate. -/
def joinSurrogates (h l : Nat) : Char :=
  Char.ofNat (0x10000 + (h - 0xD800) * 0x400 + (l - 0xDC00))

/-- The characters of some units. -/
def chars? : List Nat → Option (List Char)
  | [] => some []
  | u :: r =>
    if isHigh u then
      match r with
      | l :: r => if isLow l then (chars? r).map (joinSurrogates u l :: ·) else none
      | [] => none
    else if isLow u then none
    else (chars? r).map (Char.ofNat u :: ·)

/-- The units of a character. -/
def charUnits (c : Char) : List Nat :=
  let n := c.toNat
  if n < 0x10000 then [n]
  else [0xD800 + (n - 0x10000) / 0x400, 0xDC00 + (n - 0x10000) % 0x400]

/-- The bytes of a text. -/
def encode (o : ByteOrder) (cs : List Char) : List UInt8 :=
  (cs.flatMap charUnits).flatMap (unitBytes o)

/-- The text of well-formed bytes. -/
def decode? (o : ByteOrder) (bytes : List UInt8) : Option (List Char) :=
  (units? o bytes).bind chars?

end ArchivalBag.Encoding.Utf16
