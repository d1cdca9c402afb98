import ArchivalBag.Text.Blank

/-!
# Lines

A text is cut at its line feeds, and a tag file is read line by line. A line keeps the number it has
in the file, but a carriage return at its end is not part of it, and a line with nothing else in it
is skipped. Numbering comes first, so skipped lines count.

* `lines`: the pieces between line feeds. A carriage return right before a line feed belongs to the
  line's end, and a line feed at the end of the text starts no further line.
* `contentLines`: the numbered lines that say something.
-/

namespace ArchivalBag.Text

/-- A line of a file, with its position counted from one. -/
structure Line where
  number : Nat
  text : List Char
  deriving DecidableEq, Inhabited

/-- The pieces of a text between its line ends, a line end being a line feed with or without a
carriage return before it. -/
def splitLines : List Char → List (List Char)
  | [] => []
  | '\r' :: '\n' :: r => [] :: splitLines r
  | '\n' :: r => [] :: splitLines r
  | c :: r =>
    match splitLines r with
    | [] => [[c]]
    | p :: ps => (c :: p) :: ps

/-- The lines of a text. -/
def lines (text : String) : List String :=
  (splitLines text.toList).map String.ofList

/-- The line without one carriage return at its end. -/
def dropReturn : List Char → List Char
  | [] => []
  | ['\r'] => []
  | c :: r => c :: dropReturn r

/-- The lines that are not empty, numbered from `n` on. -/
def contentFrom (n : Nat) : List String → List Line
  | [] => []
  | l :: ls =>
    match dropReturn l.toList with
    | [] => contentFrom (n + 1) ls
    | c :: r => ⟨n, c :: r⟩ :: contentFrom (n + 1) ls

/-- The lines of a file that say something, each with its number in the file. -/
def contentLines (ls : List String) : List Line :=
  contentFrom 1 ls

end ArchivalBag.Text
