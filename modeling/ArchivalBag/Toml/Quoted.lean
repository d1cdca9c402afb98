import ArchivalBag.Text.Hex

/-!
# Strings in TOML

A string is written between quotes or between apostrophes, and with three of either it may go over
several lines. Between quotes a backslash escapes; between apostrophes every character stands for
itself. A line feed right behind the opening of a string of several lines does not count, and up to
two quotes may stand in front of its closing ones.

* `Quoted.write`: the written form of a string, in the style with the fewest escapes.
* `Quoted.read?`: the string at the front of a text, and what follows it.
* `Quoted.readKey?`: the same for a string on one line.
-/

namespace ArchivalBag.Toml.Quoted

open Text

/-- How a string is written. -/
inductive Style where
  /-- Between quotes. -/
  | basic
  /-- Between apostrophes. -/
  | literal
  /-- Between three quotes. -/
  | basicBlock
  /-- Between three apostrophes. -/
  | literalBlock
  deriving DecidableEq, Repr

/-- The apostrophe. -/
def apostrophe : Char := '\x27'

/-- What a string starts and ends with. -/
def Style.delimiter : Style → List Char
  | .basic => ['"']
  | .literal => [apostrophe]
  | .basicBlock => ['"', '"', '"']
  | .literalBlock => [apostrophe, apostrophe, apostrophe]

/-- The string may go over several lines. -/
def Style.isBlock : Style → Bool
  | .basicBlock => true
  | .literalBlock => true
  | _ => false

/-! ## Writing -/

/-- The length of the longest run of a character, after `run` of them; `best` is the longest run
before. -/
def longestRunFrom (q : Char) (run best : Nat) : List Char → Nat
  | [] => best
  | c :: r =>
    if c = q then longestRunFrom q (run + 1) (max best (run + 1)) r
    else longestRunFrom q 0 best r

/-- The length of the longest run of a character. -/
def longestRun (q : Char) (cs : List Char) : Nat :=
  longestRunFrom q 0 0 cs

/-- A control character that cannot stand for itself: all but the tab and the line feed. -/
def isControl (c : Char) : Bool :=
  (c.toNat < 0x20 && c != '\t' && c != '\n') || c.toNat == 0x7F

/-- The style a text is written in: the first of four that needs no escapes, or else one with
escapes. -/
def Style.ofText (cs : List Char) : Style :=
  let plain := !cs.any isControl
  let backslash := cs.contains '\\'
  let lines := cs.contains '\n'
  let quotes := longestRun '"' cs
  let apostrophes := longestRun apostrophe cs
  if plain && !backslash && quotes == 0 && !lines then .basic
  else if plain && apostrophes == 0 && !lines then .literal
  else if plain && !backslash && quotes ≤ 2 then .basicBlock
  else if plain && apostrophes ≤ 2 then .literalBlock
  else if lines then .basicBlock
  else .basic

/-- The letter of the short escape of a character, if it has one. A line feed of a block stands for
itself. -/
def shortEscape? (block : Bool) (c : Char) : Option Char :=
  match c.toNat with
  | 8 => some 'b'
  | 9 => some 't'
  | 10 => if block then none else some 'n'
  | 12 => some 'f'
  | 13 => some 'r'
  | 92 => some '\\'
  | _ => none

/-- A character other than a quote between quotes. -/
def escape (block : Bool) (c : Char) : List Char :=
  match shortEscape? block c with
  | some e => ['\\', e]
  | none =>
    if isControl c then
      ['\\', 'u', '0', '0', hexDigit (c.toNat / 16), hexDigit (c.toNat % 16)]
    else [c]

/-- A text between quotes. At most `spare` quotes in a row stand for themselves; `run` counts them. -/
def escapeFrom (block : Bool) (spare run : Nat) : List Char → List Char
  | [] => []
  | c :: r =>
    if c = '"' then
      if run < spare then '"' :: escapeFrom block spare (run + 1) r
      else '\\' :: '"' :: escapeFrom block spare 0 r
    else escape block c ++ escapeFrom block spare 0 r

/-- What stands between the delimiters. -/
def Style.content (style : Style) (cs : List Char) : List Char :=
  match style with
  | .basic => escapeFrom false 0 0 cs
  | .basicBlock => escapeFrom true 2 0 cs
  | _ => cs

/-- The line feed behind the opening of a block with several lines. -/
def Style.opening (style : Style) (cs : List Char) : List Char :=
  if style.isBlock && cs.contains '\n' then ['\n'] else []

/-- A text in a given style. -/
def Style.write (style : Style) (cs : List Char) : List Char :=
  style.delimiter ++ style.opening cs ++ style.content cs ++ style.delimiter

/-- The written form of a text. -/
def write (cs : List Char) : List Char :=
  (Style.ofText cs).write cs

/-! ## Reading -/

/-- The character stands for itself in a string. -/
def isPlain (c : Char) : Bool :=
  c == '\t' || (0x20 ≤ c.toNat && c.toNat != 0x7F)

/-- The character that a letter behind a backslash stands for. -/
def shortEscaped? (e : Char) : Option Char :=
  match e with
  | 'b' => some '\x08'
  | 't' => some '\t'
  | 'n' => some '\n'
  | 'f' => some '\x0c'
  | 'r' => some '\r'
  | 'e' => some '\x1b'
  | '"' => some '"'
  | '\\' => some '\\'
  | _ => none

/-- The character of a code point in hexadecimal digits. -/
def codePoint? (digits : List Char) : Option Char :=
  (hexNumber? digits).bind fun n => if n.isValidChar then some (Char.ofNat n) else none

/-- A character in front of what was read. -/
def consTo (c : Char) (x : Option (List Char × List Char)) : Option (List Char × List Char) :=
  x.map fun (a, rest) => (c :: a, rest)

/-- A text between quotes, behind the opening one. -/
def basicBody : List Char → Option (List Char × List Char)
  | [] => none
  | '"' :: r => some ([], r)
  | '\\' :: 'u' :: a :: b :: c :: d :: r =>
    (codePoint? [a, b, c, d]).bind fun x => consTo x (basicBody r)
  | '\\' :: 'U' :: a :: b :: c :: d :: e :: f :: g :: h :: r =>
    (codePoint? [a, b, c, d, e, f, g, h]).bind fun x => consTo x (basicBody r)
  | '\\' :: 'x' :: a :: b :: r =>
    (codePoint? [a, b]).bind fun x => consTo x (basicBody r)
  | '\\' :: e :: r => (shortEscaped? e).bind fun x => consTo x (basicBody r)
  | c :: r => if isPlain c && c != '\\' then consTo c (basicBody r) else none

/-- Nothing but blanks is left on a line, and another line follows. -/
def lineEnds : List Char → Bool
  | ' ' :: r => lineEnds r
  | '\t' :: r => lineEnds r
  | '\n' :: _ => true
  | '\r' :: '\n' :: _ => true
  | _ => false

/-- What follows three closing delimiters. Up to two more of them belong to the text. -/
def closeBlock (q : Char) : List Char → List Char × List Char
  | a :: b :: r =>
    if a = q then if b = q then ([q, q], r) else ([q], b :: r) else ([], a :: b :: r)
  | [a] => if a = q then ([q], []) else ([], [a])
  | [] => ([], [])

/-- A text between three quotes, behind the opening ones. Behind a backslash at the end of a line all
blanks and line feeds are passed over, which is what `passing` says. -/
def basicBlockBody (passing : Bool) : List Char → Option (List Char × List Char)
  | [] => none
  | '"' :: '"' :: '"' :: r => some (closeBlock '"' r)
  | '\\' :: 'u' :: a :: b :: c :: d :: r =>
    (codePoint? [a, b, c, d]).bind fun x => consTo x (basicBlockBody false r)
  | '\\' :: 'U' :: a :: b :: c :: d :: e :: f :: g :: h :: r =>
    (codePoint? [a, b, c, d, e, f, g, h]).bind fun x => consTo x (basicBlockBody false r)
  | '\\' :: 'x' :: a :: b :: r =>
    (codePoint? [a, b]).bind fun x => consTo x (basicBlockBody false r)
  | '\\' :: e :: r =>
    if lineEnds (e :: r) then basicBlockBody true (e :: r)
    else (shortEscaped? e).bind fun x => consTo x (basicBlockBody false r)
  | '\r' :: '\n' :: r =>
    if passing then basicBlockBody true r
    else consTo '\r' (consTo '\n' (basicBlockBody false r))
  | c :: r =>
    if passing && (c == ' ' || c == '\t' || c == '\n') then basicBlockBody true r
    else if (isPlain c && c != '\\') || c == '\n' then consTo c (basicBlockBody false r)
    else none

/-- A text between apostrophes, behind the opening one. -/
def literalBody : List Char → Option (List Char × List Char)
  | [] => none
  | c :: r =>
    if c = apostrophe then some ([], r)
    else if isPlain c then consTo c (literalBody r)
    else none

/-- A text between three apostrophes, behind the opening ones. -/
def literalBlockBody : List Char → Option (List Char × List Char)
  | [] => none
  | '\x27' :: '\x27' :: '\x27' :: r => some (closeBlock apostrophe r)
  | '\r' :: '\n' :: r => consTo '\r' (consTo '\n' (literalBlockBody r))
  | c :: r => if isPlain c || c == '\n' then consTo c (literalBlockBody r) else none

/-- The text without a line feed at its front. -/
def dropLineFeed : List Char → List Char
  | '\n' :: r => r
  | '\r' :: '\n' :: r => r
  | cs => cs

/-- A string on one line. -/
def readKey? : List Char → Option (List Char × List Char)
  | '"' :: r => basicBody r
  | '\x27' :: r => literalBody r
  | _ => none

/-- A string. -/
def read? : List Char → Option (List Char × List Char)
  | '"' :: '"' :: '"' :: r => basicBlockBody false (dropLineFeed r)
  | '\x27' :: '\x27' :: '\x27' :: r => literalBlockBody (dropLineFeed r)
  | cs => readKey? cs

end ArchivalBag.Toml.Quoted
