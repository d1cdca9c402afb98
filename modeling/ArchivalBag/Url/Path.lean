import ArchivalBag.Text.Split
import ArchivalBag.Url.Percent

/-!
# Paths of URLs

A path is read segment by segment onto a stack: a segment `.` adds nothing and a segment `..` takes
back the last one, in whatever way their dots are written. A drive letter at the front of a path
cannot be taken back. Tabs and line ends in a segment do not count, but behind a drive letter at the
front of the path of a file they end the segment.

* `Path.read`: the path of a row of segments.
* `Path.strip`: a text without tabs and line ends.
-/

namespace ArchivalBag.Url.Path

/-- Tabs and line ends do not count. -/
def isIgnored (c : Char) : Bool :=
  c == '\t' || c == '\n' || c == '\r'

/-- The text without tabs and line ends. -/
def strip (cs : List Char) : List Char :=
  cs.filter (!isIgnored ·)

/-- The ways to write a dot. -/
def dots : List String := [".", "%2e", "%2E"]

/-- The segment stands for its own directory. -/
def isDot (s : List Char) : Bool :=
  dots.contains (String.ofList s)

/-- The segment stands for the directory above. -/
def isDoubleDot (s : List Char) : Bool :=
  dots.any fun a => dots.any fun b => a ++ b == String.ofList s

/-- A letter and a colon or a bar. -/
def isDriveLetter : List Char → Bool
  | [a, b] => a.isAlpha && (b == ':' || b == '|')
  | _ => false

/-- The segment starts with a drive letter that ends there or at a mark that could end a segment. -/
def startsWithDriveLetter : List Char → Bool
  | a :: b :: r =>
    isDriveLetter [a, b] &&
      (match r with
      | [] => true
      | c :: _ => c == '\\' || c == '?' || c == '#')
  | _ => false

/-- The stack without its top, which a drive letter does not leave. -/
def up : List (List Char) → List (List Char)
  | [] => []
  | s :: r => if startsWithDriveLetter s then s :: r else r

/-- The text of a stack of segments: a slash after each, and one in front. -/
def stackText (stack : List (List Char)) : List Char :=
  '/' :: stack.reverse.flatMap (· ++ ['/'])

/-- A path that has been read, and whether its front is a drive letter. -/
structure Result where
  text : List Char
  drive : Bool

/-- The segment as it is kept: at the front of the path of a file, the mark after a drive letter is a
colon. -/
def kept (file : Bool) (stack : List (List Char)) (s : List Char) : List Char × Bool :=
  match s with
  | a :: _ => if file && stack.isEmpty && isDriveLetter s then ([a, ':'], true) else (s, false)
  | [] => ([], false)

/-- A drive letter that tabs or line ends part from what follows it, and that text. -/
def splitDrive? (s : List Char) : Option (List Char × List Char) :=
  match s.dropWhile isIgnored with
  | a :: r =>
    match r.dropWhile isIgnored with
    | ':' :: t :: r =>
      if a.isAlpha && isIgnored t && !(strip r).isEmpty then some ([a, ':'], strip r) else none
    | _ => none
  | [] => none

/-- The path of the segments on the stack and those that follow; only the last of these is not
followed by a slash. What is parted from a drive letter is kept as it is, even if it is dots. -/
def walk (file : Bool) (stack : List (List Char)) (drive : Bool) : List (List Char) → Result
  | [] => ⟨stackText stack, drive⟩
  | s :: r =>
    match (if file && stack.isEmpty then splitDrive? s else none) with
    | some (d, t) =>
      let e := Percent.encode Percent.inPath t
      match r with
      | [] => ⟨stackText [d] ++ e, drive⟩
      | _ => walk file [e, d] drive r
    | none =>
      let e := Percent.encode Percent.inPath (strip s)
      if isDoubleDot e then walk file (up stack) drive r
      else if isDot e then walk file stack drive r
      else
        let k := kept file stack e
        match r with
        | [] => ⟨stackText stack ++ k.1, drive || k.2⟩
        | _ => walk file (k.1 :: stack) (drive || k.2) r

/-- The character separates segments. -/
def isSeparator (special : Bool) (c : Char) : Bool :=
  c == '/' || (special && c == '\\')

/-- The path of a text behind its first slash. -/
def read (special file : Bool) (cs : List Char) : Result :=
  walk file [] false (Text.splitBy (isSeparator special) cs)

end ArchivalBag.Url.Path
