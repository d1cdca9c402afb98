import ArchivalBag.Text.Split

/-!
# Paths

A path is a text whose parts are separated by slashes. Two spellings name the same path when they
have the same components: doubled slashes, a slash at the end, and a part `.` anywhere but at the
front of a relative path contribute nothing. A part `..` is a component like any other, since what it
names is known to the file system only.

* `Path.components`: the components of a spelling.
* `Path.Same`: two spellings of one path.
* `Path.key`: the components as numbers, ordered lexicographically; paths are listed in this order.
* `Path.join`: the path of an entry below a directory.
* `Path.absolute?`: the path from the root of the file system.
-/

namespace ArchivalBag

/-- A spelling of a path. -/
structure Path where
  text : String
  deriving DecidableEq, Repr, Inhabited

namespace Path

open Text

/-- What a path consists of. -/
inductive Component where
  /-- The slash an absolute path starts with. -/
  | root
  /-- A part `.` at the front of a relative path. -/
  | current
  /-- A part `..`. -/
  | parent
  /-- Any other part. -/
  | name (s : String)
  deriving DecidableEq, Repr

/-- The parts of a text between its slashes. -/
def parts (cs : List Char) : List (List Char) :=
  splitBy (· == '/') cs

/-- The component a part contributes behind the front of a path, if any. -/
def Component.ofPart? : List Char → Option Component
  | [] => none
  | ['.'] => none
  | ['.', '.'] => some .parent
  | p => some (.name (String.ofList p))

/-- The component at the front of a path: a relative path keeps its first `.`, and the part in front
of the first slash of an absolute path is empty. -/
def frontComponents : List Char → List Component
  | '/' :: _ => [.root]
  | ['.'] => [.current]
  | '.' :: '/' :: _ => [.current]
  | _ => []

/-- The components of a path. -/
def components (p : Path) : List Component :=
  frontComponents p.text.toList ++ (parts p.text.toList).filterMap Component.ofPart?

/-- Two spellings of one path. -/
def Same (p q : Path) : Prop :=
  p.components = q.components

instance (p q : Path) : Decidable (Same p q) :=
  inferInstanceAs (Decidable (p.components = q.components))

/-- A component as a string of numbers: the root comes first, then `.`, then `..`, then the names by
their characters. -/
def Component.key : Component → List Nat
  | .root => [0]
  | .current => [1]
  | .parent => [2]
  | .name s => 3 :: s.toList.map Char.toNat

/-- What paths are ordered by. -/
def key (p : Path) : List (List Nat) :=
  p.components.map Component.key

theorem Component.key_injective {a b : Component} (h : a.key = b.key) : a = b := by
  cases a <;> cases b <;> simp_all [Component.key]
  rename_i s t
  have hs : s.toList = t.toList :=
    (List.map_inj_right fun _ _ h => Char.toNat_inj.1 h).1 h
  exact String.toList_inj.1 hs

theorem key_eq_iff {p q : Path} : p.key = q.key ↔ p.Same q := by
  constructor
  · intro h
    exact (List.map_inj_right fun _ _ h => Component.key_injective h).1 h
  · intro h
    rw [key, key, show p.components = q.components from h]

/-- The path is empty. -/
def isEmpty (p : Path) : Bool :=
  p.text.isEmpty

/-- The path starts at the root of the file system. -/
def isAbsolute (p : Path) : Bool :=
  p.text.toList.head? == some '/'

/-- The last component, unless it is the root, `.` or `..`. -/
def fileName? (p : Path) : Option String :=
  match p.components.getLast? with
  | some (.name s) => some s
  | _ => none

/-- A slash, where the text needs one before a further part. -/
def separator (cs : List Char) : List Char :=
  match cs.getLast? with
  | none => []
  | some '/' => []
  | some _ => ['/']

/-- The path named by `part` below `base`; an absolute part stands for itself. -/
def join (base : Path) (part : String) : Path :=
  if part.toList.head? = some '/' then ⟨part⟩
  else ⟨base.text ++ String.ofList (separator base.text.toList) ++ part⟩

/-- The text a component contributes to a path. -/
def Component.text : Component → String
  | .root => "/"
  | .current => "."
  | .parent => ".."
  | .name s => s

/-- The slashes an absolute path is written with: exactly two slashes at the front stay two. -/
def rootText : List Char → String
  | '/' :: '/' :: '/' :: _ => "/"
  | '/' :: '/' :: _ => "//"
  | _ => "/"

/-- The components behind the root, or behind the `.` at the front. -/
def innerComponents (p : Path) : List Component :=
  (parts p.text.toList).filterMap Component.ofPart?

/-- The path from the root of the file system, which is also where relative paths start. Parts that
contribute nothing disappear, a slash at the end and every `..` stay. The empty path has none. -/
def absolute? (p : Path) : Option Path :=
  if p.isEmpty then none
  else
    let base := p.innerComponents.foldl (fun q c => q.join c.text) ⟨rootText p.text.toList⟩
    some (if p.text.toList.getLast? = some '/' then base.join "" else base)

end Path

end ArchivalBag
