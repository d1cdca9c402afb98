import ArchivalBag.Text.Alphanumeric
import ArchivalBag.Text.Blank
import ArchivalBag.Text.Hex
import ArchivalBag.Text.Split

/-!
# Patterns

A directive of a filter may ask for a value by a pattern. A text is a pattern if its groups and classes
are closed, if each repetition has something to repeat, if its escapes are known, and if it asks for
nothing that one pass over the value cannot tell: no part that was found before, no look at what
comes, and no border between words of any script. A closing brace ends the fields of a directive, so
that no pattern holds one, and nothing that needs one stands in a pattern.

* `Pattern.isWellFormed`: the text is a pattern.
* `Pattern.classBody`, `Pattern.branches`: what stands in a class, and in a group.
-/

namespace ArchivalBag.Log.Pattern

open Text

/-- How a part of a pattern is read. -/
structure Mode where
  /-- Blanks and comments do not count. -/
  spaced : Bool
  /-- Classes hold characters of all scripts; else they hold single bytes. -/
  wide : Bool
  deriving DecidableEq, Repr

/-! ## Blanks and comments -/

/-- The text behind blanks and comments; `inComment` tells that it starts in a comment. -/
def skipSpaced (inComment : Bool) : List Char → List Char
  | [] => []
  | c :: r =>
    if inComment then skipSpaced (c != '\n') r
    else if isBlank c then skipSpaced false r
    else if c == '#' then skipSpaced true r
    else c :: r

/-- The text from the next character on that counts. -/
def skip (m : Mode) (cs : List Char) : List Char :=
  if m.spaced then skipSpaced false cs else cs

/-- The next character that counts, in the same line. -/
def peek (m : Mode) (cs : List Char) : Option Char :=
  if m.spaced then
    match cs.dropWhile isBlank with
    | '#' :: r => ((r.dropWhile isBlank).head?).or cs.head?
    | r => r.head?.or cs.head?
  else cs.head?

/-! ## Single characters and escapes -/

/-- A part of a pattern without parts of its own. -/
inductive Piece where
  /-- A character; `byte` tells that it is written as the number of a byte. -/
  | char (c : Char) (byte : Bool)
  /-- A class of characters, or all others. -/
  | kind (inverted : Bool)
  /-- The characters with some property. -/
  | property
  /-- A place; `word` tells that it is at a border of a word or away from one. -/
  | place (word : Bool)
  deriving DecidableEq, Repr

/-- The piece may stand in a pattern. -/
def Piece.fits (m : Mode) : Piece → Bool
  | char c byte => m.wide || !byte || c.toNat < 128
  | kind inverted => m.wide || !inverted
  | property => m.wide
  | place word => !(word && m.wide)

/-- The piece may stand in a class. -/
def Piece.fitsClass (m : Mode) : Piece → Bool
  | char c _ => m.wide || c.toNat < 128
  | kind inverted => m.wide || !inverted
  | property => m.wide
  | place _ => false

/-- The number of the next `n` hexadecimal digits, behind the number `v`. -/
def hexDigits (m : Mode) : Nat → Nat → List Char → Option (Nat × List Char)
  | 0, v, cs => some (v, cs)
  | n + 1, v, cs =>
    match skip m cs with
    | [] => none
    | c :: r => (hexValue? c).bind fun d => hexDigits m n (16 * v + d) r

/-- A character written by its number. -/
def numbered (m : Mode) (digits : Nat) (byte : Bool) (cs : List Char) :
    Option (Piece × List Char) :=
  (hexDigits m digits 0 cs).bind fun (v, r) =>
    if h : v.isValidChar then some (.char (Char.ofNatAux v h) byte, r) else none

/-- The properties with a name of one letter. -/
def properties : List Char := "clmnpsz".toList

/-- A property. -/
def property (m : Mode) (cs : List Char) : Option (Piece × List Char) :=
  match skip m cs with
  | c :: r => if properties.contains c.toLower then some (.property, r) else none
  | [] => none

/-- Letters that stand for a control character behind a backslash. -/
def controls : List (Char × Nat) :=
  [('a', 7), ('f', 12), ('t', 9), ('n', 10), ('r', 13), ('v', 11)]

/-- What stands behind a backslash. -/
def escape (m : Mode) : List Char → Option (Piece × List Char)
  | [] => none
  | c :: r =>
    match controls.lookup c with
    | some n => some (.char (Char.ofNat n) false, r)
    | none =>
      if c == 'x' then numbered m 2 true r
      else if c == 'u' then numbered m 4 false r
      else if c == 'U' then numbered m 8 false r
      else if c == 'p' || c == 'P' then property m r
      else if "dsw".toList.contains c then some (.kind false, r)
      else if "DSW".toList.contains c then some (.kind true, r)
      else if "Az".toList.contains c then some (.place false, r)
      else if "bB<>".toList.contains c then some (.place true, r)
      else if c.toNat < 128 && !c.isAlphanum then some (.char c false, r)
      else none

/-! ## Classes -/

/-- The height of what consists of parts with the given heights. -/
def heightOf : List Nat → Nat
  | [] => 0
  | [h] => h
  | hs => 1 + hs.foldl max 0

/-- The height of a class of which `left` has been read, and then a row of parts. -/
def joinedHeight (left : Option Nat) (parts : List Nat) : Nat :=
  left.elim (heightOf parts) fun l => 1 + max l (heightOf parts)

/-- The names of classes of ASCII. -/
def asciiNames : List String :=
  ["alnum", "alpha", "ascii", "blank", "cntrl", "digit", "graph", "lower", "print", "punct",
    "space", "upper", "word", "xdigit"]

/-- The name of a class of ASCII between colons, whether it is inverted, and what follows the bracket
behind it. -/
def asciiClass? (cs : List Char) : Option (Bool × List Char) :=
  match cs with
  | ':' :: r =>
    let inverted := r.head? == some '^'
    match splitAt? (· == ':') (if inverted then r.drop 1 else r) with
    | some (name, ']' :: rest) =>
      if asciiNames.contains (String.ofList name) then some (inverted, rest) else none
    | _ => none
  | _ => none

/-- A character or an escape in a class. -/
def classPiece (m : Mode) : List Char → Option (Piece × List Char)
  | [] => none
  | '\\' :: r => escape m r
  | c :: r => some (.char c false, r)

/-- A part of a class, or a range from one character to another, and what follows it. -/
def classRange (m : Mode) (cs : List Char) : Option (List Char) :=
  match classPiece m cs with
  | none => none
  | some (p, r) =>
    if p.fitsClass m then
      match skip m r with
      | '-' :: t =>
        if peek m t == some ']' || peek m t == some '-' then some ('-' :: t)
        else
          match p, classPiece m (skip m t) with
          | .char a _, some (.char b byte, rest) =>
            if (Piece.char b byte).fitsClass m && a.toNat ≤ b.toNat then some rest else none
          | _, _ => none
      | r => some r
    else none

/-- The number of hyphens, and what follows them; `n` bounds the steps. -/
def hyphens (m : Mode) : Nat → List Char → Nat × List Char
  | n + 1, '-' :: r => let (k, rest) := hyphens m n (skip m r); (k + 1, rest)
  | _, cs => (0, cs)

/-- The heights of the parts that a class starts with, behind its bracket: hyphens, or else a closing
bracket, stand for themselves there. -/
def openClass (m : Mode) (cs : List Char) : Option (List Nat × List Char) :=
  let start := skip m cs
  let inverted := start.head? == some '^'
  if inverted && !m.wide then none
  else
    let inner := if inverted then skip m (start.drop 1) else start
    match hyphens m inner.length inner with
    | (0, ']' :: r) => some ([0], r)
    | (k, r) => some (List.replicate k 0, r)

/-- The height of a class, and what follows its closing bracket; `parts` are the heights of what has
been read since the last operator, and `left` is the height of what is in front of that. The number
bounds the steps. -/
def classBody (m : Mode) : Nat → List Nat → Option Nat → List Char → Option (Nat × List Char)
  | 0, _, _, _ => none
  | n + 1, parts, left, cs =>
    match skip m cs with
    | [] => none
    | ']' :: r => some (joinedHeight left parts, r)
    | '[' :: r =>
      match asciiClass? r with
      | some (inverted, rest) =>
        if inverted && !m.wide then none else classBody m n (0 :: parts) left rest
      | none => do
        let (first, r) ← openClass m r
        let (h, rest) ← classBody m n first none r
        classBody m n ((h + 1) :: parts) left rest
    | '&' :: '&' :: r => classBody m n [] (some (joinedHeight left parts)) r
    | '-' :: '-' :: r => classBody m n [] (some (joinedHeight left parts)) r
    | '~' :: '~' :: r => classBody m n [] (some (joinedHeight left parts)) r
    | cs => (classRange m cs).bind fun rest => classBody m n (0 :: parts) left rest

/-- A class behind its opening bracket: its height, and what follows it. -/
def klass (m : Mode) (cs : List Char) : Option (Nat × List Char) := do
  let (first, r) ← openClass m cs
  let (h, rest) ← classBody m (r.length + 1) first none r
  pure (h + 1, rest)

/-! ## Groups -/

/-- The letters that change how the pattern is read, and the sign in front of those that are turned
off. -/
def isFlag (c : Char) : Bool :=
  "imsUuRx-".toList.contains c

/-- What the flags say about one of them, if they mention it. -/
def flagState? (flag : Char) (flags : List Char) : Option Bool :=
  match splitAt? (· == flag) flags with
  | some (front, _) => some (!front.contains '-')
  | none => none

/-- The mode after some flags. -/
def Mode.with (m : Mode) (flags : List Char) : Mode :=
  ⟨(flagState? 'x' flags).getD m.spaced, (flagState? 'u' flags).getD m.wide⟩

/-- No flag is unknown or there twice, and the last one is not the sign. -/
def flagsFit : List Char → Bool
  | [] => true
  | [c] => isFlag c && c != '-'
  | c :: r => isFlag c && !r.contains c && flagsFit r

/-- The name may be given to a group. -/
def isName : List Char → Bool
  | [] => false
  | c :: r =>
    (c == '_' || isAlphabetic c) &&
      r.all fun d => d == '_' || d == '.' || d == '[' || d == ']' || isAlphanumeric d

/-- What an opening parenthesis starts. -/
inductive Opening where
  /-- Nothing; the flags hold for the rest of the group around it. -/
  | flags (mode : Mode)
  /-- A group; it has its own mode, and possibly a name. -/
  | group (mode : Mode) (name : Option (List Char))

/-- The group with a name, behind the sign in front of the name. -/
def named (m : Mode) (cs : List Char) : Option (Opening × List Char) :=
  match splitAt? (· == '>') cs with
  | some (name, r) => if isName name then some (.group m (some name), r) else none
  | none => none

/-- What starts behind an opening parenthesis. -/
def opening (m : Mode) : List Char → Option (Opening × List Char)
  | '?' :: 'P' :: '<' :: r => named m r
  | '?' :: '<' :: r => named m r
  | '?' :: r =>
    let flags := r.takeWhile fun c => c != ':' && c != ')'
    if flagsFit flags then
      match r.drop flags.length with
      | ':' :: rest => some (.group (m.with flags) none, rest)
      | ')' :: rest => if flags.isEmpty then none else some (.flags (m.with flags), rest)
      | _ => none
    else none
  | cs => some (.group m none, cs)

/-- A part of a branch: its height, and whether it may be repeated. -/
structure Part where
  height : Nat
  repeatable : Bool

/-- The height of branches in front of a last one with the given parts. -/
def branchesHeight (before : List Nat) (parts : List Part) : Nat :=
  match before with
  | [] => heightOf (parts.map (·.height))
  | hs => 1 + max (hs.foldl max 0) (heightOf (parts.map (·.height)))

/-- The character stands for a repetition. -/
def isRepetition (c : Char) : Bool :=
  c == '?' || c == '*' || c == '+'

/-- The text behind the sign that makes a repetition as short as possible. -/
def dropLazy : List Char → List Char
  | '?' :: r => r
  | cs => cs

/-- A character, an escape or a place. -/
def piece (m : Mode) (c : Char) (r : List Char) : Option (Piece × List Char) :=
  if c == '\\' then escape m r
  else if c == '.' then some (.kind true, r)
  else if c == '^' || c == '$' then some (.place false, r)
  else some (.char c false, r)

/-- The height of the branches up to the end of their group, the names of groups, and the rest.
`before` are the heights of the branches that are read, `parts` the parts of the one that is being
read, from the last one. The number bounds the steps. -/
def branches : Nat → Mode → List Nat → List Part → List (List Char) → List Char →
    Option (Nat × List (List Char) × List Char)
  | 0, _, _, _, _, _ => none
  | n + 1, m, before, parts, names, cs =>
    match skip m cs with
    | [] => some (branchesHeight before parts, names, [])
    | ')' :: r => some (branchesHeight before parts, names, ')' :: r)
    | '|' :: r => branches n m (heightOf (parts.map (·.height)) :: before) [] names r
    | '[' :: r => do
      let (h, rest) ← klass m r
      branches n m before (⟨h, true⟩ :: parts) names rest
    | '(' :: r =>
      match opening m (skip m r) with
      | none => none
      | some (.flags mode, rest) => branches n mode before (⟨0, false⟩ :: parts) names rest
      | some (.group mode name, rest) => do
        if name.any names.contains then none
        let (h, names, rest) ← branches n mode [] [] (name.toList ++ names) rest
        match rest with
        | ')' :: rest => branches n m before (⟨h + 1, true⟩ :: parts) names rest
        | _ => none
    | c :: r =>
      if c == '\x7b' then none
      else if isRepetition c then
        match parts with
        | ⟨h, true⟩ :: ps => branches n m before (⟨h + 1, true⟩ :: ps) names (dropLazy r)
        | _ => none
      else do
        let (p, rest) ← piece m c r
        if p.fits m then branches n m before (⟨0, true⟩ :: parts) names rest else none

/-- How deep the parts of a pattern may be nested. -/
def maxDepth : Nat := 250

/-- The text is a pattern. -/
def isWellFormed (cs : List Char) : Bool :=
  match branches (cs.length + 1) ⟨false, true⟩ [] [] [] cs with
  | some (h, _, []) => h ≤ maxDepth
  | _ => false

end ArchivalBag.Log.Pattern
