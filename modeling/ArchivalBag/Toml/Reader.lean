import ArchivalBag.Toml.Quoted
import ArchivalBag.Toml.Scalar
import ArchivalBag.Toml.Table

/-!
# Reading TOML

A document is a sequence of lines, each with a header, a key and its value, or nothing. A value may go
over several lines.

* `Toml.parse?`: the entries of a document.
* `Toml.Reader.key`, `Toml.Reader.value`: a key with dots, and a value.
* `Toml.Reader.statement`: what stands on a line.
-/

namespace ArchivalBag.Toml.Reader

open Quoted

/-! ## Between the parts -/

/-- A blank within a line. -/
def isSpace (c : Char) : Bool :=
  c == ' ' || c == '\t'

/-- The text from the first other character on. -/
def skipSpace (cs : List Char) : List Char :=
  cs.dropWhile isSpace

/-- The text behind a comment, if there is one. -/
def skipComment : List Char → List Char
  | '#' :: r => r.dropWhile isPlain
  | cs => cs

/-- What follows the end of a line, in front of which there may be a comment. -/
def lineEnd (cs : List Char) : Option (List Char) :=
  match skipComment (skipSpace cs) with
  | [] => some []
  | '\n' :: r => some r
  | '\r' :: '\n' :: r => some r
  | _ => none

/-- The text from the next part on, on this line or on a later one. The number bounds the steps. -/
def skipLines : Nat → List Char → List Char
  | 0, cs => cs
  | n + 1, cs =>
    match skipComment (skipSpace cs) with
    | '\n' :: r => skipLines n r
    | '\r' :: '\n' :: r => skipLines n r
    | r => r

/-- The text from the next part on. -/
def skipBlank (cs : List Char) : List Char :=
  skipLines (cs.length + 1) cs

/-! ## Keys -/

/-- A character of a key without quotes. -/
def isBare (c : Char) : Bool :=
  c.isAlphanum || c == '_' || c == '-'

/-- A key without dots. -/
def simpleKey (cs : List Char) : Option (List Char × List Char) :=
  match cs.takeWhile isBare with
  | [] => readKey? cs
  | k => some (k, cs.dropWhile isBare)

/-- A key, as the parts between its dots. The number bounds the steps. -/
def dottedKey : Nat → List Char → Option (List String × List Char)
  | 0, _ => none
  | n + 1, cs => do
    let (k, r) ← simpleKey (skipSpace cs)
    match skipSpace r with
    | '.' :: r => do
      let (ks, rest) ← dottedKey n r
      pure (String.ofList k :: ks, rest)
    | r => pure ([String.ofList k], r)

/-- How many parts a key may have. -/
def maxParts : Nat := 80

/-- A key with the blanks around it. -/
def key (cs : List Char) : Option (List String × List Char) := do
  let (ks, r) ← dottedKey (cs.length + 1) cs
  if maxParts < ks.length then none else pure (ks, r)

/-- A key with the equals sign behind it and the blanks around that; `skip` passes over blanks. -/
def keyAndSign (skip : List Char → List Char) (cs : List Char) :
    Option (List String × List Char) := do
  let (ks, r) ← key cs
  match skip r with
  | '=' :: r => pure (ks, skip r)
  | _ => none

/-! ## Values -/

/-- A character at which a number, a date or a word ends. -/
def endsWord (c : Char) : Bool :=
  isSpace c || c == '\n' || c == '\r' || c == ',' || c == ']' || c == '\x7d' || c == '#'

/-- A word, and what follows it. -/
def word (cs : List Char) : List Char × List Char :=
  (cs.takeWhile (!endsWord ·), cs.dropWhile (!endsWord ·))

/-- A word, and what follows it. A date goes with the time behind the blank after it. -/
def moment (cs : List Char) : List Char × List Char :=
  let (w, r) := word cs
  match r with
  | ' ' :: c :: _ =>
    if c.isDigit && date? w == some [] then
      let (t, rest) := word r.tail
      (w ++ ' ' :: t, rest)
    else (w, r)
  | _ => (w, r)

/-- A truth value, a number, a date or a time. -/
def scalar (cs : List Char) : Option (Toml × List Char) :=
  let (w, r) := moment cs
  match w with
  | ['t', 'r', 'u', 'e'] => some (.bool true, r)
  | ['f', 'a', 'l', 's', 'e'] => some (.bool false, r)
  | w => if isNumber w || isMoment w then some (.literal w, r) else none

/-- How deep arrays and tables within a value may be nested. -/
def maxDepth : Nat := 80

mutual

/-- A value. `depth` is how deep it may still be nested, and `n` bounds the steps. -/
def value (depth : Nat) : Nat → List Char → Option (Toml × List Char)
  | 0, _ => none
  | n + 1, cs =>
    match cs with
    | '[' :: r =>
      if depth = 0 then none
      else (items (depth - 1) n (skipBlank r)).map fun (vs, rest) => (.array vs, rest)
    | '\x7b' :: r =>
      if depth = 0 then none
      else (entries (depth - 1) n (skipBlank r) []).map fun (es, rest) =>
        (.table (Node.entriesToToml es), rest)
    | cs =>
      match read? cs with
      | some (s, rest) => some (.string (String.ofList s), rest)
      | none => scalar cs

/-- The items of an array up to its closing bracket. A comma may follow the last one. -/
def items (depth : Nat) : Nat → List Char → Option (List Toml × List Char)
  | 0, _ => none
  | _, ']' :: rest => some ([], rest)
  | n + 1, cs => do
    let (v, r) ← value depth n cs
    match skipBlank r with
    | ',' :: r => do
      let (vs, rest) ← items depth n (skipBlank r)
      pure (v :: vs, rest)
    | ']' :: rest => pure ([v], rest)
    | _ => none

/-- The entries of a table up to its closing brace, after those before. A comma may follow the last
one, and lines may end anywhere but inside a key. -/
def entries (depth : Nat) : Nat → List Char → Node.Entries → Option (Node.Entries × List Char)
  | 0, _, _ => none
  | _, '\x7d' :: rest, es => some (es, rest)
  | n + 1, cs, es => do
    let (ks, r) ← keyAndSign skipBlank cs
    let (v, r) ← value depth n r
    let es ← Node.assign? v ks es
    match skipBlank r with
    | ',' :: r => entries depth n (skipBlank r) es
    | '\x7d' :: rest => pure (es, rest)
    | _ => none

end

/-! ## Documents -/

/-- What stands on a line. -/
inductive Statement where
  /-- The header of a table. -/
  | header (path : List String)
  /-- The header of an item of a list of tables. -/
  | itemHeader (path : List String)
  /-- A key and its value. -/
  | assignment (path : List String) (v : Toml)

/-- A header, a key and its value, or nothing. -/
def statement (cs : List Char) : Option (Option Statement × List Char) :=
  match skipSpace cs with
  | '[' :: '[' :: r => do
    match ← key r with
    | (ks, ']' :: ']' :: rest) => pure (some (.itemHeader ks), rest)
    | _ => none
  | '[' :: r => do
    match ← key r with
    | (ks, ']' :: rest) => pure (some (.header ks), rest)
    | _ => none
  | [] => some (none, [])
  | '#' :: r => some (none, '#' :: r)
  | '\n' :: r => some (none, '\n' :: r)
  | '\r' :: r => some (none, '\r' :: r)
  | cs => do
    let (ks, r) ← keyAndSign skipSpace cs
    let (v, rest) ← value maxDepth (2 * r.length + 2) r
    pure (some (.assignment ks v), rest)

/-- A document in the making: its entries, and the path of the last header. -/
structure Draft where
  entries : Node.Entries
  path : List String

/-- The document with one more statement. -/
def Draft.add? (d : Draft) : Statement → Option Draft
  | .header ks => do
    pure ⟨← Node.alter? (Node.openTable? (ks.getLastD "")) ks.dropLast d.entries, ks⟩
  | .itemHeader ks => do
    pure ⟨← Node.alter? (Node.openItem? (ks.getLastD "")) ks.dropLast d.entries, ks⟩
  | .assignment ks v => do
    pure ⟨← Node.alter? (Node.assign? v ks) d.path d.entries, d.path⟩

/-- The document with all statements of a text. The number bounds the steps. -/
def document : Nat → List Char → Draft → Option Draft
  | 0, _, _ => none
  | n + 1, cs, d => do
    let (s, r) ← statement cs
    let rest ← lineEnd r
    let d ← match s with
      | some s => d.add? s
      | none => pure d
    if rest.isEmpty then pure d else document n rest d

/-- The text without a byte order mark at its front. -/
def dropMark : List Char → List Char
  | '\ufeff' :: r => r
  | cs => cs

end Reader

/-- The entries of a document. -/
def parse? (text : String) : Option (List (String × Toml)) :=
  let cs := Reader.dropMark text.toList
  (Reader.document (cs.length + 1) cs ⟨[], []⟩).map fun d => Node.entriesToToml d.entries

end ArchivalBag.Toml
