import ArchivalBag.Url.Host
import ArchivalBag.Url.Path

/-!
# URLs

The parts of a URL and how they are read from a text. Blanks around a URL and line ends and tabs
inside it do not count. A scheme is special if it is known to lead to a host; such a URL always has a
host and a path, and a backslash separates its segments like a slash.

* `Url.parse`: the URL a text stands for, or why it stands for none.
* `Url.text`: the written form of a URL.
-/

namespace ArchivalBag

open Text

/-- Who a URL asks, and as whom. -/
structure Url.Authority where
  user : List Char
  password : List Char
  host : Url.Host
  port : Option Nat
  deriving DecidableEq, Repr

/-- A URL. -/
structure Url where
  scheme : List Char
  authority : Option Url.Authority
  path : List Char
  query : Option (List Char)
  fragment : Option (List Char)
  deriving DecidableEq, Repr

namespace Url

/-- The kinds of schemes. -/
inductive Kind where
  /-- Files of some host, by default of this one. -/
  | file
  /-- The other special schemes. -/
  | special
  /-- All other schemes. -/
  | plain
  deriving DecidableEq, Repr

/-- The kind of a scheme. -/
def kindOf (scheme : List Char) : Kind :=
  let s := String.ofList scheme
  if s == "file" then .file
  else if ["http", "https", "ws", "wss", "ftp"].contains s then .special
  else .plain

/-- The scheme is special. -/
def Kind.isSpecial : Kind → Bool
  | .plain => false
  | _ => true

/-- The port a scheme uses if none is given. -/
def defaultPort? (scheme : List Char) : Option Nat :=
  [("http", 80), ("ws", 80), ("https", 443), ("wss", 443), ("ftp", 21)].lookup (String.ofList scheme)

/-- The part of a URL that names the user. -/
def Authority.userText (a : Authority) : List Char :=
  if a.user.isEmpty && a.password.isEmpty then []
  else a.user ++ (if a.password.isEmpty then [] else ':' :: a.password) ++ ['@']

/-- The written form of an authority. -/
def Authority.text (a : Authority) : List Char :=
  a.userText ++ a.host.text ++ (match a.port with | none => [] | some p => ':' :: Nat.toDigits 10 p)

/-- The written form of the path. Without an authority, a path that starts with two slashes gets a
segment `.` in front, so that it is not taken for one. -/
def pathText (u : Url) : List Char :=
  match u.authority, u.path with
  | none, '/' :: '/' :: r => '/' :: '.' :: '/' :: '/' :: r
  | _, p => p

/-- The written form of a URL. -/
def text (u : Url) : String :=
  String.ofList <|
    u.scheme ++ [':'] ++
    (match u.authority with | none => [] | some a => '/' :: '/' :: a.text) ++
    u.pathText ++
    (match u.query with | none => [] | some q => '?' :: q) ++
    (match u.fragment with | none => [] | some f => '#' :: f)

/-! ## Reading -/

/-- Control characters and the space. -/
def isEdge (c : Char) : Bool :=
  c.toNat ≤ 32

/-- The text without controls and spaces around it. -/
def trimEdges (cs : List Char) : List Char :=
  ((cs.dropWhile isEdge).reverse.dropWhile isEdge).reverse

/-- The characters of a scheme behind its first. -/
def isSchemeChar (c : Char) : Bool :=
  c.isAlphanum || c == '+' || c == '-' || c == '.'

/-- The scheme a text starts with, in small letters, and what follows the colon. -/
def splitScheme? (cs : List Char) : Option (List Char × List Char) :=
  match splitAt? (· == ':') cs with
  | some (c :: r, rest) =>
    if c.isAlpha && r.all isSchemeChar then some ((c :: r).map Char.toLower, rest) else none
  | _ => none

/-- What follows the path: the query and the fragment. -/
structure Tail where
  query : Option (List Char)
  fragment : Option (List Char)

/-- The text before the query and the fragment, and these two. -/
def splitTail (kind : Kind) (cs : List Char) : List Char × Tail :=
  let (front, fragment) :=
    match splitAt? (· == '#') cs with
    | some (a, b) => (a, some (Percent.encode Percent.inFragment (Path.strip b)))
    | none => (cs, none)
  let set := if kind.isSpecial then Percent.inSpecialQuery else Percent.inQuery
  match splitAt? (· == '?') front with
  | some (a, b) => (a, ⟨some (Percent.encode set (Path.strip b)), fragment⟩)
  | none => (front, ⟨none, fragment⟩)

/-- The text before and after the last `@`. -/
def splitUser? (cs : List Char) : Option (List Char × List Char) :=
  (splitAt? (· == '@') cs.reverse).map fun (a, b) => (b.reverse, a.reverse)

/-- The text before the first colon outside brackets, and the text after that colon, if any. -/
def splitPort (inside : Bool) : List Char → List Char × Option (List Char)
  | [] => ([], none)
  | c :: r =>
    if c == ':' && !inside then ([], some r)
    else
      let (h, p) := splitPort (if c == '[' then true else if c == ']' then false else inside) r
      (c :: h, p)

/-- The port written behind a colon, if any, and what follows it: a backslash ends it where a
backslash is not a separator. -/
def readPort (cs : List Char) : Except Fault (Option Nat × List Char) :=
  let digits := cs.takeWhile Char.isDigit
  let rest := cs.dropWhile Char.isDigit
  let port := Nat.ofDigitChars 10 digits 0
  if 65535 < port then .error .badPort
  else if rest.head?.any (· != '\\') then .error .badPort
  else .ok (if digits.isEmpty then none else some port, rest)

/-- The user and the password of a text. -/
def readUser (cs : List Char) : List Char × List Char :=
  match splitAt? (· == ':') cs with
  | some (u, p) => (Percent.encode Percent.inUserinfo u, Percent.encode Percent.inUserinfo p)
  | none => (Percent.encode Percent.inUserinfo cs, [])

/-- The authority of a text, and the start of the path if it begins in that text. `more` tells that
something follows the text. -/
def readAuthority (scheme : List Char) (special more : Bool) (cs : List Char) :
    Except Fault (Authority × List Char) := do
  let (info, place) ←
    match splitUser? cs with
    | none => .ok ([], cs)
    | some ([], []) => if more then .error .emptyHost else .ok ([], [])
    | some (info, place) => .ok (info, place)
  let (user, password) := readUser info
  let (hostText, portText) := splitPort false place
  if special && hostText.isEmpty then .error Fault.emptyHost
  let host ← if special then Host.read hostText else Host.readVerbatim hostText
  if hostText.isEmpty && portText.isSome then .error Fault.emptyHost
  let (port, rest) ←
    match portText with
    | none => .ok (none, [])
    | some p => readPort p
  if hostText.isEmpty && !(user.isEmpty && password.isEmpty) then .error Fault.emptyHost
  return (⟨user, password, host, if port = defaultPort? scheme then none else port⟩, rest)

/-- The text up to the first separator or the end of the path. -/
def untilSeparator (special : Bool) (cs : List Char) : List Char × List Char :=
  cs.span fun c => !(Path.isSeparator special c || c == '?' || c == '#')

/-- The path that follows an authority. -/
def readPath (special : Bool) (cs : List Char) : List Char :=
  match cs with
  | [] => if special then ['/'] else []
  | c :: r => (Path.read special false (if Path.isSeparator special c then r else c :: r)).text

/-- A URL whose authority starts here. -/
def readWithAuthority (scheme : List Char) (kind : Kind) (cs : List Char) : Except Fault Url := do
  let (front, rest) := untilSeparator kind.isSpecial cs
  let (authority, pathStart) ← readAuthority scheme kind.isSpecial (!rest.isEmpty) front
  let (path, tail) := splitTail kind (pathStart ++ rest)
  return ⟨scheme, some authority, readPath kind.isSpecial path, tail.query, tail.fragment⟩

/-- The host of a file, and the text of its path; the local host is written as none, and a drive
letter in place of a host belongs to the path. -/
def readFileHost (cs : List Char) : Except Fault (Host × List Char) :=
  let (text, rest) := cs.span fun c => !(Path.isSeparator true c)
  let front := Path.strip text
  if front.isEmpty || Path.isDriveLetter front then .ok (.name [], cs)
  else
    match Host.read front with
    | .error f => .error f
    | .ok h =>
      if h = .name "localhost".toList then .ok (.name [], rest)
      else .ok (h, rest.drop 1)

/-- What follows a separator at the start of the text. -/
def behindSeparator? (cs : List Char) : Option (List Char) :=
  match cs.dropWhile Path.isIgnored with
  | c :: r => if Path.isSeparator true c then some r else none
  | [] => none

/-- The URL of a file. In its path tabs and line ends may part what follows a drive letter, so they
are still in the text. -/
def readFile (cs : List Char) : Except Fault Url :=
  let (front, tail) := splitTail .file cs
  let build (host : Host) (path : List Char) : Url :=
    let p := Path.read true true path
    { scheme := "file".toList
      authority := some ⟨[], [], if p.drive then .name [] else host, none⟩
      path := '/' :: p.text.dropWhile (· == '/')
      query := tail.query
      fragment := tail.fragment }
  match behindSeparator? front with
  | none => .ok (build (.name []) front)
  | some path =>
    match behindSeparator? path with
    | none => .ok (build (.name []) path)
    | some r => (readFileHost r).map fun (host, path) => build host path

/-- A URL of a scheme that is not special. -/
def readPlain (scheme : List Char) : List Char → Except Fault Url
  | '/' :: '/' :: r => readWithAuthority scheme .plain r
  | '/' :: r =>
    let (path, tail) := splitTail .plain r
    .ok ⟨scheme, none, (Path.read false false path).text, tail.query, tail.fragment⟩
  | cs =>
    let (path, tail) := splitTail .plain cs
    .ok ⟨scheme, none, Percent.encode Percent.isControl path, tail.query, tail.fragment⟩

/-- The URL a text stands for. -/
def parse (s : String) : Except Fault Url :=
  let text := trimEdges s.toList
  match splitScheme? (Path.strip text) with
  | none => .error .noScheme
  | some (scheme, rest) =>
    match kindOf scheme with
    | .file => readFile ((text.dropWhile (· != ':')).drop 1)
    | .special => readWithAuthority scheme .special (rest.dropWhile (Path.isSeparator true))
    | .plain => readPlain scheme rest

end Url

end ArchivalBag
