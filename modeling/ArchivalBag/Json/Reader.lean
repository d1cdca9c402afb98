import ArchivalBag.Encoding.Utf16
import ArchivalBag.Json

/-!
# Reading JSON

A reader of one kind of thing takes a text and gives what it read and the rest of the text, or nothing
if the text does not start with such a thing. Values are nested without a limit.

* `Json.parse?`: the value a text stands for.
* `Json.Reader.value`, `Json.Reader.elements`, `Json.Reader.members`: a value, and what follows the
  opening of an array and of an object.
* `Json.Reader.number`, `Json.Reader.stringBody`: a number, and a string behind its opening quote.
-/

namespace ArchivalBag.Json.Reader

/-- The characters between the parts of a value. -/
def isSpace (c : Char) : Bool :=
  c == ' ' || c == '\t' || c == '\n' || c == '\r'

/-- The text from the first other character on. -/
def skipSpace (cs : List Char) : List Char :=
  cs.dropWhile isSpace

/-! ## Strings -/

/-- The character that a letter behind a backslash stands for. -/
def shortEscape? : Char → Option Nat
  | '"' => some 34
  | '\\' => some 92
  | '/' => some 47
  | 'b' => some 8
  | 'f' => some 12
  | 'n' => some 10
  | 'r' => some 13
  | 't' => some 9
  | _ => none

/-- A string behind its opening quote, as numbers of characters or of halves of surrogate pairs. -/
def stringBody : List Char → Option (List Nat × List Char)
  | [] => none
  | '"' :: r => some ([], r)
  | '\\' :: 'u' :: a :: b :: c :: d :: r =>
    match Text.hexNumber? [a, b, c, d] with
    | none => none
    | some u => (stringBody r).map fun (us, rest) => (u :: us, rest)
  | '\\' :: e :: r =>
    match shortEscape? e with
    | none => none
    | some u => (stringBody r).map fun (us, rest) => (u :: us, rest)
  | c :: r =>
    if c.toNat < 0x20 then none
    else (stringBody r).map fun (us, rest) => (c.toNat :: us, rest)

/-- The text of a string, if its surrogates are in pairs. -/
def textOf? (us : List Nat) : Option String :=
  (Encoding.Utf16.chars? us).map String.ofList

/-- A string behind its opening quote. -/
def string (cs : List Char) : Option (Option String × List Char) :=
  (stringBody cs).map fun (us, rest) => (textOf? us, rest)

/-! ## Numbers -/

/-- The digits at the front of a text, and what follows them. -/
def digits (cs : List Char) : List Char × List Char :=
  (cs.takeWhile Char.isDigit, cs.dropWhile Char.isDigit)

/-- At least one digit. -/
def someDigits (cs : List Char) : Option (List Char × List Char) :=
  match digits cs with
  | ([], _) => none
  | p => some p

/-- The digits before the point: a zero is the only one. -/
def whole (cs : List Char) : Option (List Char × List Char) :=
  match digits cs with
  | ([], _) => none
  | ('0' :: _ :: _, _) => none
  | p => some p

/-- A point with digits behind it, if there is a point. -/
def fraction : List Char → Option (List Char × List Char)
  | '.' :: r => (someDigits r).map fun (ds, rest) => ('.' :: ds, rest)
  | cs => some ([], cs)

/-- A sign, if there is one. -/
def sign : List Char → List Char × List Char
  | '+' :: r => (['+'], r)
  | '-' :: r => (['-'], r)
  | cs => ([], cs)

/-- An exponent, if there is one. -/
def exponent : List Char → Option (List Char × List Char)
  | [] => some ([], [])
  | c :: r =>
    if c == 'e' || c == 'E' then
      let (s, r) := sign r
      (someDigits r).map fun (ds, rest) => (c :: (s ++ ds), rest)
    else some ([], c :: r)

/-- A number without a sign. -/
def magnitude (cs : List Char) : Option (List Char × List Char) := do
  let (w, cs) ← whole cs
  let (f, cs) ← fraction cs
  let (e, cs) ← exponent cs
  pure (w ++ f ++ e, cs)

/-- A number. -/
def number : List Char → Option (List Char × List Char)
  | '-' :: r => (magnitude r).map fun (l, rest) => ('-' :: l, rest)
  | cs => magnitude cs

/-! ## Values -/

mutual

/-- A value. The number bounds the steps. -/
def value : Nat → List Char → Option (Json × List Char)
  | 0, _ => none
  | n + 1, cs =>
    match skipSpace cs with
    | 'n' :: 'u' :: 'l' :: 'l' :: r => some (.null, r)
    | 't' :: 'r' :: 'u' :: 'e' :: r => some (.bool true, r)
    | 'f' :: 'a' :: 'l' :: 's' :: 'e' :: r => some (.bool false, r)
    | '"' :: r => (string r).map fun (s, rest) => (.string s, rest)
    | '[' :: r =>
      match skipSpace r with
      | ']' :: rest => some (.array [], rest)
      | _ => (elements n r).map fun (js, rest) => (.array js, rest)
    | '{' :: r =>
      match skipSpace r with
      | '}' :: rest => some (.object [], rest)
      | _ => (members n r).map fun (ms, rest) => (.object ms, rest)
    | r => (number r).map fun (l, rest) => (.number l, rest)

/-- The items of an array up to its closing bracket; there is at least one. -/
def elements : Nat → List Char → Option (List Json × List Char)
  | 0, _ => none
  | n + 1, cs =>
    match value n cs with
    | none => none
    | some (j, r) =>
      match skipSpace r with
      | ']' :: rest => some ([j], rest)
      | ',' :: rest => (elements n rest).map fun (js, rest) => (j :: js, rest)
      | _ => none

/-- The members of an object up to its closing brace; there is at least one. -/
def members : Nat → List Char → Option (List (Option String × Json) × List Char)
  | 0, _ => none
  | n + 1, cs =>
    match skipSpace cs with
    | '"' :: r =>
      match string r with
      | none => none
      | some (k, r) =>
        match skipSpace r with
        | ':' :: r =>
          match value n r with
          | none => none
          | some (j, r) =>
            match skipSpace r with
            | '}' :: rest => some ([(k, j)], rest)
            | ',' :: rest => (members n rest).map fun (ms, rest) => ((k, j) :: ms, rest)
            | _ => none
        | _ => none
    | _ => none

end

end Reader

/-- The value a text stands for. Every step but one per value uses up a character. -/
def parse? (text : String) : Option Json :=
  let cs := text.toList
  match Reader.value (2 * cs.length + 2) cs with
  | some (j, rest) => if Reader.skipSpace rest = [] then some j else none
  | none => none

end ArchivalBag.Json
