import ArchivalBag.Text.Hex

/-!
# JSON

The values of JSON as a reader sees them. A number is kept as it is written, since only its reader
knows which numbers it takes. A string can be written so that it stands for no text, by escaping half
of a surrogate pair; such a string may stand where nobody looks at it. The members of an object are
kept in their order, with repetitions.

* `Json`: the values.
* `Json.text`: the written form without blanks.
* `Json.quote`: the written form of a string.
-/

namespace ArchivalBag

/-- A value of JSON. -/
inductive Json where
  | null
  | bool (b : Bool)
  /-- A number as it is written. -/
  | number (literal : List Char)
  /-- A string, if it stands for a text. -/
  | string (s : Option String)
  | array (items : List Json)
  /-- An object; a key that stands for no text is `none`. -/
  | object (members : List (Option String × Json))
  deriving Inhabited

namespace Json

open Text

/-! ## Writing -/

/-- The letter of the short escape of a character, if it has one. -/
def shortEscape? (c : Char) : Option Char :=
  match c.toNat with
  | 8 => some 'b'
  | 9 => some 't'
  | 10 => some 'n'
  | 12 => some 'f'
  | 13 => some 'r'
  | 34 => some '"'
  | 92 => some '\\'
  | _ => none

/-- A character inside a string. Quotes, backslashes and the characters before the blank are escaped. -/
def escape (c : Char) : List Char :=
  match shortEscape? c with
  | some e => ['\\', e]
  | none =>
    if c.toNat < 0x20 then
      ['\\', 'u', '0', '0', smallHexDigit (c.toNat / 16), smallHexDigit (c.toNat % 16)]
    else [c]

/-- The written form of a text. -/
def quote (s : String) : List Char :=
  '"' :: (s.toList.flatMap escape ++ ['"'])

/-- Half of a surrogate pair, escaped: the written form of a string that stands for no text. -/
def brokenString : List Char :=
  ['"', '\\', 'u', 'd', '8', '0', '0', '"']

/-- The written form of a string. -/
def quote? : Option String → List Char
  | some s => quote s
  | none => brokenString

mutual

/-- The written form of a value, without blanks. -/
def text : Json → List Char
  | null => ['n', 'u', 'l', 'l']
  | bool true => ['t', 'r', 'u', 'e']
  | bool false => ['f', 'a', 'l', 's', 'e']
  | number l => l
  | string s => quote? s
  | array items => '[' :: (itemsText items ++ [']'])
  | object members => '{' :: (membersText members ++ ['}'])

/-- The written form of the items of an array. -/
def itemsText : List Json → List Char
  | [] => []
  | [j] => text j
  | j :: k :: r => text j ++ ',' :: itemsText (k :: r)

/-- The written form of the members of an object. -/
def membersText : List (Option String × Json) → List Char
  | [] => []
  | [(k, j)] => quote? k ++ ':' :: text j
  | (k, j) :: m :: r => quote? k ++ ':' :: (text j ++ ',' :: membersText (m :: r))

end

/-- The written form of a value as a string. -/
def render (j : Json) : String :=
  String.ofList j.text

end Json

end ArchivalBag
